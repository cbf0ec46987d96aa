/-
# The canvas

What a screen shows is a rectangle of cells, each with a symbol in some style.  Drawing replaces
cells one by one; what is drawn outside the canvas is not seen.
-/
import LineSearch.Screen.Area
import LineSearch.Screen.Style
import LineSearch.Text.Basic

namespace LineSearch.Screen

/-- One place of the screen.  An untouched cell is blank, in the colours of the terminal. -/
structure Cell where
  symbol : Text := [' ']
  fg : Color := .reset
  bg : Color := .reset
  attributes : Attributes := {}
  deriving DecidableEq, Repr

/-- The cell in the given style; colours that the style leaves open stay. -/
def Cell.paint (c : Cell) (s : Style) : Cell :=
  { c with
    fg := s.fg.getD c.fg
    bg := s.bg.getD c.bg
    attributes := c.attributes.union s.attributes }

/-- The cell with a symbol drawn in it. -/
def Cell.draw (c : Cell) (symbol : Text) (s : Style) : Cell := { c with symbol }.paint s

/-- A rectangle of cells, kept row by row. -/
structure Canvas where
  width : Nat
  height : Nat
  cells : Array Cell
  deriving DecidableEq, Repr

namespace Canvas

/-- A canvas of untouched cells. -/
def blank (width height : Nat) : Canvas := ⟨width, height, Array.replicate (width * height) {}⟩

/-- The whole canvas. -/
def area (c : Canvas) : Area := ⟨0, 0, c.width, c.height⟩

/-- Whether the canvas has all cells of an area. -/
def holds (c : Canvas) (a : Area) : Bool :=
  a.isEmpty || (a.right ≤ c.width && a.bottom ≤ c.height)

/-- Changes the cell at a place, if the canvas has it. -/
def modify (c : Canvas) (x y : Nat) (f : Cell → Cell) : Canvas :=
  if x < c.width && y < c.height then { c with cells := c.cells.modify (y * c.width + x) f } else c

/-- Changes every cell of an area. -/
def modifyAll (c : Canvas) (a : Area) (f : Cell → Cell) : Canvas :=
  a.cells.foldl (fun c (x, y) => c.modify x y f) c

/-- Makes the cells of an area untouched again. -/
def erase (c : Canvas) (a : Area) : Canvas := c.modifyAll a fun _ => {}

/-- Gives all cells of an area a style. -/
def paint (c : Canvas) (a : Area) (s : Style) : Canvas := c.modifyAll a (·.paint s)

/-- The cells of a row. -/
def row (c : Canvas) (y : Nat) : List Cell :=
  (c.cells.extract (y * c.width) (y * c.width + c.width)).toList

/-- All rows. -/
def rows (c : Canvas) : List (List Cell) := (List.range c.height).map c.row

end Canvas

end LineSearch.Screen
