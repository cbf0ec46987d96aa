/-
# Notations of settings files

The name of a file tells in which notation it is written.  A name may also stand for a file that has
an ending besides.

`Reader.notations` is the reader of the three notations.  It is one reader among others: it knows no
aliases in YAML.
-/
import LineSearch.Data.Toml
import LineSearch.Data.Yaml
import LineSearch.Text.Utf8

namespace LineSearch.Data

namespace Format

/-- The endings of file names. -/
def extensions : List (String × Format) :=
  [("toml", toml), ("json", json), ("yaml", yaml), ("yml", yaml)]

/-- The notation of a file with the given name, which is told by what follows its last point.  A
name that begins with its only point has no ending. -/
def ofName? (name : Text) : Option Format :=
  match name.splitAtLast '.' with
  | some (_ :: _, ending) => extensions.lookup (String.ofList ending)
  | _ => none

/-- The text that a file holds; a mark of the encoding in front of it is left out. -/
def textOf (content : List UInt8) : Text :=
  match content with
  | 0xEF :: 0xBB :: 0xBF :: rest => Text.Utf8.decode rest
  | content => Text.Utf8.decode content

/-- The text in the file with the given name, or else in one whose name has another ending
besides. -/
def find? (content? : Text → Option (List UInt8)) (name : Text) : Option (Format × Text) :=
  match content? name with
  | some content => (ofName? name).map fun f => (f, textOf content)
  | none =>
    extensions.findSome? fun (ending, f) =>
      (content? (name ++ '.' :: ending.toList)).map fun content => (f, textOf content)

/-- The table that a text writes in the given notation. -/
def parse? : Format → Text → Except Fault (List (Text × Value))
  | toml, t => ofOption (Toml.parse? t)
  | json, t =>
    match Json.parse? t with
    | some (.table es) => .ok es
    | _ => .error .malformed
  | yaml, t => ofOption (Yaml.parse? t)
where
  ofOption : Option (List (Text × Value)) → Except Fault (List (Text × Value))
    | some es => .ok es
    | none => .error .malformed

end Format

/-- The reader of the three notations. -/
@[reducible]
def Reader.notations : Reader where
  find? := Format.find?
  parse? := Format.parse?
  merge := Value.mergeFile

end LineSearch.Data
