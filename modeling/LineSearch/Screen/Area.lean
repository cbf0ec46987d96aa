/-
# Areas

A rectangle of cells on the screen: where its upper left cell is, and how many columns and rows it
has.  Both may be none; then the area has no cells.
-/

namespace LineSearch.Screen

/-- A rectangle of cells; columns and rows are counted from the upper left corner of the screen. -/
structure Area where
  x : Nat
  y : Nat
  width : Nat
  height : Nat
  deriving DecidableEq, Repr

namespace Area

/-- The column after the last one. -/
def right (a : Area) : Nat := a.x + a.width

/-- The row after the last one. -/
def bottom (a : Area) : Nat := a.y + a.height

/-- Whether the area has no cells. -/
def isEmpty (a : Area) : Bool := a.width == 0 || a.height == 0

/-- What a border of one cell all around leaves of the area. -/
def inner (a : Area) : Area where
  x := min (a.x + 1) a.right
  y := min (a.y + 1) a.bottom
  width := a.width - 2
  height := a.height - 2

/-- The places of the cells, row by row. -/
def cells (a : Area) : List (Nat × Nat) :=
  (List.range' a.y a.height).flatMap fun y => (List.range' a.x a.width).map fun x => (x, y)

theorem mem_cells {a : Area} {x y : Nat} :
    (x, y) ∈ a.cells ↔ (a.x ≤ x ∧ x < a.right) ∧ a.y ≤ y ∧ y < a.bottom := by
  simp only [cells, right, bottom, List.mem_flatMap, List.mem_map, List.mem_range'_1, Prod.mk.injEq]
  constructor
  · rintro ⟨row, hrow, column, hcolumn, rfl, rfl⟩
    exact ⟨hcolumn, hrow⟩
  · rintro ⟨hx, hy⟩
    exact ⟨y, hy, x, hx, rfl, rfl⟩

end Area

end LineSearch.Screen
