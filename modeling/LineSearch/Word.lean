/-
# Words and selected text of a document

What a search can begin with when it is started from a document: the text that is selected, or the
word at the cursor.
-/
import LineSearch.Document
import LineSearch.Position
import LineSearch.Text.Letter

namespace LineSearch

namespace Text

/-- A character of a word: a letter, a numeral or the low line. -/
def isWordChar (c : Char) : Bool := isAlphanumeric c || c == '_'

/-- The word around the place between two texts: the word characters directly before it and those
directly after it. -/
def wordAround (before after : Text) : Text :=
  (before.reverse.takeWhile isWordChar).reverse ++ after.takeWhile isWordChar

end Text

namespace Document

/-- The part of a line from the column `start` up to, and not with, `stop`. -/
def slice (line : Text) (start stop : Nat) : Text := (line.drop start).take (stop - start)

/-- The text between the ends of a selection; lines are joined by newlines.  What lies past the end
of a line or of the document is left out. -/
def selectedText (d : Document) (s : Selection) : Text :=
  let start := s.start
  let stop := s.stop
  if d.lineCount ≤ start.line then []
  else
    let last := min stop.line (d.lineCount - 1)
    Text.join ['\n'] <| (List.range' start.line (last + 1 - start.line)).map fun i =>
      let text := d.line i
      let first := if i = start.line then start.column else 0
      if i = stop.line then slice text first stop.column else text.drop first

/-- The word that the position is in or touches. -/
def wordAt (d : Document) (p : Position) : Option Text :=
  if d.lineCount ≤ p.line then none
  else
    let text := d.line p.line
    if text.length < p.column then none
    else
      match Text.wordAround (text.take p.column) (text.drop p.column) with
      | [] => none
      | word => some word

/-- What a search from the selection begins with: the selected text, or else the word at the
cursor. -/
def seed (d : Document) (s : Selection) : Text :=
  let selected := d.selectedText s
  if !s.isEmpty && selected != [] then selected else (d.wordAt s.start).getD []

end Document

end LineSearch
