/-
# Drawing the picker

The picker covers what is below it with a box.  In its first row is the line of input, and in the
rows below it the candidates, as many as fit, so that the active one is among them.
-/
import LineSearch.Picker
import LineSearch.Screen.Box
import LineSearch.Text.Digit
import LineSearch.Theme

namespace LineSearch

open Screen (Style Line Area Canvas)

namespace Picker

/-- The title: which candidate is active, and how many there are. -/
def title (p : Picker) : Text :=
  let number :=
    match p.active with
    | some i => i + 1
    | none => 0
  "Search ".toList ++ Text.decimal number ++ ['/'] ++ Text.decimal p.items.length

/-- The line of input. -/
def inputLine (p : Picker) (t : Theme) : Line where
  runs := [⟨p.value, if p.showsPrompt then t.prompt else {}⟩]

/-- The row of a candidate. -/
def itemLine (t : Theme) (item : Candidate) (active : Bool) : Line where
  runs :=
    if active then [⟨item.label, t.activeItem⟩]
    else [⟨item.label, {}⟩, ⟨"  ".toList, {}⟩, ⟨item.description, t.description⟩]

/-- The first candidate that is drawn where there is room for `rows` of them. -/
def firstItem (p : Picker) (rows : Nat) : Nat := p.active.getD 0 - (rows - 1)

/-- The rows of the candidates that are drawn where there is room for so many. -/
def itemLines (p : Picker) (t : Theme) (rows : Nat) : List Line :=
  ((p.items.mapIdx fun i item => itemLine t item (p.active == some i)).drop (p.firstItem rows)).take
    rows

/-- Draws the picker into an area. -/
def draw [Text.Layout] (p : Picker) (t : Theme) (a : Area) (c : Canvas) : Canvas :=
  let inner := a.inner
  let rows := inner.height - 1
  let c := (c.erase a).box a p.title t.borderFocused
  let c := c.lines { inner with height := min inner.height 1 } 0 [p.inputLine t]
  c.lines { inner with y := inner.y + 1, height := rows } 0 (p.itemLines t rows)

/-- Where the cursor of the terminal is when the picker is drawn into an area. -/
def cursorPlace (p : Picker) (a : Area) : Nat × Nat :=
  (min (a.x + 1 + p.cursorColumn) (a.right - 2), a.y + 1)

end Picker

end LineSearch
