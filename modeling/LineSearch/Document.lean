/-
# Documents

A document is a text cut into lines, and the path of the file that it came from, if it came from
one.  Lines end at a newline, or at a carriage return and a newline; the last line may end without
either.

`Document.linesOf` cuts a text, and `Document.line` gives the text of a line, which is empty past
the end.
-/
import LineSearch.Text.Utf8

namespace LineSearch

/-- The lines of a text, and the path of its file. -/
structure Document where
  lines : List Text
  path : Option Text := none
  deriving DecidableEq, Repr

namespace Document

/-- A line without the carriage return that it may end with. -/
def dropCarriageReturn (line : Text) : Text :=
  if line.getLast? == some '\r' then line.dropLast else line

/-- The pieces without the last one, if that is empty and not the only one: it stands behind the
newline that ends the last line. -/
def dropEmptyLast (lines : List Text) : List Text :=
  if lines.length > 1 && lines.getLast? == some [] then lines.dropLast else lines

/-- The lines of a text. -/
def linesOf (t : Text) : List Text :=
  dropEmptyLast ((t.splitWhere (· == '\n')).map dropCarriageReturn)

/-- A document that belongs to no file. -/
def ofText (t : Text) : Document := { lines := linesOf t }

/-- The document that a file holds. -/
def ofFile (path : Text) (bytes : List UInt8) : Document :=
  { lines := linesOf (Text.Utf8.decode bytes), path := some path }

/-- The number of lines. -/
def lineCount (d : Document) : Nat := d.lines.length

/-- The text of a line; past the end it is empty. -/
def line (d : Document) (i : Nat) : Text := d.lines.getD i []

/-- The last part of a path, which names the file; a path that ends by going up names none. -/
def fileName? (path : Text) : Option Text :=
  match ((path.splitWhere (· == '/')).filter fun part => part != [] && part != ['.']).getLast? with
  | some ['.', '.'] => none
  | last => last

/-- The name under which the document is shown. -/
def displayName (d : Document) : Text := (d.path.bind fileName?).getD "[scratch]".toList

end Document

end LineSearch
