/-
# Scroll bars

A scroll bar shows which part of a list is visible: on a track of as many cells as the list has
visible rows lies a thumb.  Its length and its place are in proportion, rounded to the nearest cell,
and it always has at least one cell.
-/
import LineSearch.Screen.Canvas

namespace LineSearch.Screen

/-- The quotient rounded to the nearest number, a half upwards. -/
def roundDiv (a b : Nat) : Nat := (a + b / 2) / b

/-- Which rows of the track the thumb takes: the first of them, and how many. -/
structure Thumb where
  start : Nat
  length : Nat
  deriving DecidableEq, Repr

/-- The thumb for so many visible rows of a longer list, the first of them being `top`. -/
def Thumb.ofList (visible count top : Nat) : Thumb :=
  let last := count - 1
  let whole := last + visible
  let length := min (max (roundDiv (visible * visible) whole) 1) visible
  ⟨min (roundDiv (min top last * visible) whole) (visible - length), length⟩

/-- Whether the thumb takes a row. -/
def Thumb.covers (t : Thumb) (row : Nat) : Bool := t.start ≤ row && row < t.start + t.length

/-- Draws a scroll bar into the first column of an area. -/
def Canvas.scrollbar (c : Canvas) (a : Area) (t : Thumb) : Canvas :=
  (List.range a.height).foldl
    (fun c row =>
      c.modify a.x (a.y + row) (·.draw [if t.covers row then '█' else '║'] {}))
    c

end LineSearch.Screen
