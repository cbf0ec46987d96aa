/-
# Boxes

A box is an area with a line all around it, and a title in the upper part of that line.  Where the
area has but one row or one column, the upper line and the left one are the ones that are seen.
-/
import LineSearch.Screen.Line

namespace LineSearch.Screen

namespace Area

/-- What the border of an area shows in a place; `none` inside it. -/
def borderSymbol? (a : Area) (x y : Nat) : Option Char :=
  let left := x == a.x
  let right := x + 1 == a.right
  let top := y == a.y
  let bottom := y + 1 == a.bottom
  if left && top then some '┌'
  else if left && bottom then some '└'
  else if right && top then some '┐'
  else if right && bottom then some '┘'
  else if top || bottom then some '─'
  else if left || right then some '│'
  else none

end Area

namespace Canvas

/-- Draws the border of an area. -/
def border (c : Canvas) (a : Area) (s : Style) : Canvas :=
  a.cells.foldl
    (fun c (x, y) =>
      match a.borderSymbol? x y with
      | some symbol => c.modify x y (·.draw [symbol] s)
      | none => c)
    c

/-- Draws clusters, each with its width, from the column `x` of a row on, up to the column `stop`.
The cells behind a wide cluster become untouched; a cluster that takes no cell is added to the cell
before it. -/
def clusters (c : Canvas) (y stop : Nat) : (x : Nat) → List (Text × Nat) → Canvas
  | _, [] => c
  | x, (cluster, width) :: rest =>
    if x + width > stop then c
    else if width = 0 then
      clusters (c.modify (x - 1) y fun cell => { cell with symbol := cell.symbol ++ cluster })
        y stop x rest
    else
      clusters
        ((c.modify x y fun cell => { cell with symbol := cluster }).erase ⟨x + 1, y, width - 1, 1⟩)
        y stop (x + width) rest

/-- The clusters of a title with their widths.  Those at its beginning that take no cell go with the
first one that does. -/
def titleClusters [Text.Layout] (title : Text) : List (Text × Nat) :=
  let (before, rest) := (Text.drawnClusters title).span (Text.Layout.width · == 0)
  match rest with
  | [] => []
  | cluster :: rest =>
    (before.flatten ++ cluster, Text.Layout.width cluster)
      :: rest.map fun c => (c, Text.Layout.width c)

/-- Draws a box with a title. -/
def box [Text.Layout] (c : Canvas) (a : Area) (title : Text) (s : Style) : Canvas :=
  if a.isEmpty then c
  else (c.border a s).clusters a.y (a.x + 1 + (a.width - 2)) (a.x + 1) (titleClusters title)

end Canvas

end LineSearch.Screen
