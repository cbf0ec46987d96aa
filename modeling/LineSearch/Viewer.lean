/-
# The viewer of a document

The selection in a document, and which part of the document is visible.  Commands move the cursor
and scroll just as far as is needed to keep it visible; calls of a search set the selection and the
visible part one by one.
-/
import LineSearch.Command
import LineSearch.Search

namespace LineSearch

/-- The state of a viewer of a document with `lineCount` lines, at least one. -/
structure Viewer where
  selection : Selection := .cursor .zero
  /-- The first visible line. -/
  topLine : Nat := 0
  lineCount : Nat
  /-- How many lines were visible when the document was drawn last. -/
  drawnHeight : Nat := 40
  deriving DecidableEq, Repr

namespace Viewer

/-- A viewer of a document with so many lines. -/
def ofLineCount (n : Nat) : Viewer := { lineCount := max n 1 }

/-- The number of visible lines, at least one. -/
def height (v : Viewer) : Nat := max v.drawnHeight 1

/-- Where the cursor is. -/
def cursor (v : Viewer) : Position := v.selection.active

/-- The last line that can be at the top. -/
def lastLine (v : Viewer) : Nat := v.lineCount - 1

/-- Sets the cursor and scrolls as little as is needed to show its line. -/
def moveCursor (v : Viewer) (p : Position) : Viewer :=
  let topLine :=
    if p.line < v.topLine then p.line
    else if v.topLine + v.height ≤ p.line then p.line + 1 - v.height
    else v.topLine
  { v with selection := .cursor p, topLine }

/-- Where a command sends the cursor.  A move to another line keeps the column as far as that line
goes. -/
def goal? (v : Viewer) (d : Document) (c : Command) : Option Position :=
  let here := v.cursor
  let toLine (line : Nat) : Position := ⟨line, min here.column (d.line line).length⟩
  match c with
  | .move .up => some (toLine (here.line - 1))
  | .move .down => some (toLine (min (here.line + 1) v.lastLine))
  | .move .left => some ⟨here.line, here.column - 1⟩
  | .move .right => some ⟨here.line, min (here.column + 1) (d.line here.line).length⟩
  | .pageUp => some (toLine (here.line - pageStep))
  | .pageDown => some (toLine (min (here.line + pageStep) v.lastLine))
  | .top => some .zero
  | .bottom => some ⟨v.lastLine, 0⟩
  | _ => none

/-- Does what the user commands. -/
def obey (v : Viewer) (d : Document) (c : Command) : Viewer :=
  match v.goal? d c with
  | some p => v.moveCursor p
  | none => v

/-- Sets the first visible line, as far as the document goes. -/
def scrollTo (v : Viewer) (line : Nat) : Viewer := { v with topLine := min line v.lastLine }

/-- Brings the beginning of a selection to the middle. -/
def revealCentered (v : Viewer) (s : Selection) : Viewer :=
  v.scrollTo (s.start.line - v.height / 2)

/-- The viewer after the document was drawn with so many lines visible. -/
def drawn (v : Viewer) (height : Nat) : Viewer := { v with drawnHeight := height }

/-- Does what a search calls for. -/
def apply (v : Viewer) : ViewerCall → Viewer
  | .setSelection s => { v with selection := s }
  | .revealCentered s => v.revealCentered s
  | .setTopLine line => v.scrollTo line

end Viewer

end LineSearch
