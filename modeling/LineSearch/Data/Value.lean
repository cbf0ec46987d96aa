/-
# Values of settings files

A settings file holds a table of values by name, whatever notation it is written in.  Values of one
kind are taken for another where that has a clear meaning: a number may stand for a text, and a word
like `yes` for a truth value.  The functions that read a value this way say what is wrong with it if
they cannot.

`Value.merge` lays the values of a file over those that are there already.

How a file comes to be a table is left to a `Reader`, of which nothing is assumed; a statement that
needs more says so.
-/
import LineSearch.Data.Binary64
import LineSearch.Text.Lowercase

namespace LineSearch.Data

/-- A value of a settings file. -/
inductive Value where
  | nothing
  | bool (b : Bool)
  | integer (n : Int)
  | float (x : Binary64)
  | text (t : Text)
  | list (items : List Value)
  /-- The names are different. -/
  | table (entries : List (Text × Value))

/-- What is wrong with a settings file. -/
inductive Fault where
  /-- The file breaks the rules of its notation. -/
  | malformed
  /-- A value stands where one of another kind is needed, and cannot be taken for it. -/
  | wrongType
  /-- A single value stands where several parts are needed, or there are too few parts. -/
  | wrongShape
  /-- A value is missing. -/
  | missing
  deriving DecidableEq, Repr

/-! ## Tables -/

/-- The value of a name. -/
def lookup {α : Type} (entries : List (Text × α)) (name : Text) : Option α :=
  (entries.find? (·.1 = name)).map (·.2)

/-- Gives a name a value. -/
def assign {α : Type} (name : Text) (value : α) : List (Text × α) → List (Text × α)
  | [] => [(name, value)]
  | entry :: rest =>
    if entry.1 = name then (name, value) :: rest else entry :: assign name value rest

namespace Value

/-- The entries of a table; any other value has none. -/
def entries : Value → List (Text × Value)
  | table es => es
  | _ => []

mutual

/-- Lays a value over one that may be there already.  Tables are laid over each other entry by
entry; a table without entries leaves a value of another kind as it is. -/
def merge (existing : Option Value) : Value → Value
  | table [] =>
    match existing with
    | none | some nothing => table []
    | some v => v
  | table es => table (mergeEntries ((existing.map entries).getD []) es)
  | v => v

/-- Lays entries over those of a table. -/
def mergeEntries (existing : List (Text × Value)) : List (Text × Value) → List (Text × Value)
  | [] => existing
  | (name, v) :: rest =>
    mergeEntries (assign name (merge (lookup existing name) v) existing) rest

end

/-- Lays a value over the one at the end of a path of names; tables on the way come into being. -/
def mergeAt (existing : List (Text × Value)) : (path : List Text) → Value → List (Text × Value)
  | [], _ => existing
  | [name], v => assign name (merge (lookup existing name) v) existing
  | name :: path, v =>
    let inner := ((lookup existing name).map entries).getD []
    assign name (table (mergeAt inner path v)) existing

/-- Whether a character may stand in a name of a path. -/
def isNameChar (c : Char) : Bool := c.isAlphanum || c == '_' || c == '-'

/-- The path that a name stands for: its parts between points, if each of them is a name of its
own. -/
def pathOf (name : Text) : List Text :=
  let parts := name.splitWhere (· == '.')
  if parts.all fun part => part != [] && part.all isNameChar then parts else [name]

/-- Lays the entries of a file over those of a table; their names may be paths. -/
def mergeFile (existing file : List (Text × Value)) : List (Text × Value) :=
  file.foldl (fun es (name, v) => mergeAt es (pathOf name) v) existing

/-! ## Reading values -/

/-- The text of a number as it is written in decimal. -/
def integerText (n : Int) : Text :=
  (if n < 0 then ['-'] else []) ++ Text.decimal n.natAbs

/-- Reads a text; a single value of another kind stands for the text that writes it. -/
def asText : Value → Except Fault Text
  | text t => .ok t
  | bool b => .ok (toString b).toList
  | integer n => .ok (integerText n)
  | float x => .ok x.text
  | nothing | list _ | table _ => .error .wrongType

/-- The truth value that a word stands for, in letters of either case. -/
def word? (t : Text) : Option Bool :=
  match String.ofList t.lower with
  | "1" | "true" | "on" | "yes" => some true
  | "0" | "false" | "off" | "no" => some false
  | _ => none

/-- Reads a truth value; a number other than zero stands for true. -/
def asBool : Value → Except Fault Bool
  | bool b => .ok b
  | integer n => .ok (n != 0)
  | float x => .ok !x.isZero
  | text t =>
    match word? t with
    | some b => .ok b
    | none => .error .wrongType
  | nothing | list _ | table _ => .error .wrongType

/-- Reads a list. -/
def asList {α : Type} (read : Value → Except Fault α) : Value → Except Fault (List α)
  | list items => items.mapM read
  | _ => .error .wrongShape

/-- Reads a value that may be left open. -/
def asOption {α : Type} (read : Value → Except Fault α) : Value → Except Fault (Option α)
  | nothing => .ok none
  | v => (read v).map some

end Value

/-! ## Reading the parts of a value -/

/-- The parts of a value: by name, or one after the other. -/
inductive Parts where
  | named (entries : List (Text × Value))
  | placed (items : List Value)

namespace Parts

/-- The parts of a table or of a list. -/
def ofValue : Value → Except Fault Parts
  | .table es => .ok (.named es)
  | .list items => .ok (.placed items)
  | _ => .error .wrongShape

/-- Reads the part with the given name or in the given place, if it is there. -/
def read? {α : Type} (p : Parts) (place : Nat) (name : String) (read : Value → Except Fault α) :
    Except Fault (Option α) :=
  let part :=
    match p with
    | named es => lookup es name.toList
    | placed items => items[place]?
  match part with
  | some v => (read v).map some
  | none => .ok none

/-- A part that has to be there. -/
def demand {α : Type} (p : Parts) : Option α → Except Fault α
  | some a => .ok a
  | none =>
    match p with
    | named _ => .error .missing
    | placed _ => .error .wrongShape

/-- A part that may be left out where parts have names. -/
def demandPlaced {α : Type} (p : Parts) : Option (Option α) → Except Fault (Option α)
  | some a => .ok a
  | none =>
    match p with
    | named _ => .ok none
    | placed _ => .error .wrongShape

end Parts

/-! ## Readers -/

/-- A notation of settings files. -/
inductive Format where
  | toml | json | yaml
  deriving DecidableEq, Repr

/-- A reader of settings files: it finds the file that is meant by a name, reads the text that is in
the file, and lays one table over another. -/
class Reader where
  /-- The text that is meant by a name in a directory, and its notation; `content?` is what the
  files of the directory hold. -/
  find? : (content? : Text → Option (List UInt8)) → (name : Text) → Option (Format × Text)
  /-- The table that a text writes. -/
  parse? : Format → Text → Except Fault (List (Text × Value))
  /-- The entries of a table, with those of another one laid over them. -/
  merge : (existing file : List (Text × Value)) → List (Text × Value)

end LineSearch.Data
