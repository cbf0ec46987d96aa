/-
# The order of positions

A position comes before another one if its line does, or if its column does in the same line.  This is
the lexicographic order of lines and columns (`Position.key`).  In this order a selection begins at the
smaller of its two ends and stops at the larger one, and it covers what lies between them.
-/
import LineSearch.Position
import Mathlib.Data.Prod.Lex

namespace LineSearch

namespace Position

/-- Line and column, to be compared one after the other. -/
def key (p : Position) : ℕ ×ₗ ℕ := toLex (p.line, p.column)

lemma key_lt_key_iff {p q : Position} :
    p.key < q.key ↔ p.line < q.line ∨ p.line = q.line ∧ p.column < q.column :=
  Prod.Lex.toLex_lt_toLex

lemma key_le_key_iff {p q : Position} :
    p.key ≤ q.key ↔ p.line < q.line ∨ p.line = q.line ∧ p.column ≤ q.column :=
  Prod.Lex.toLex_le_toLex

lemma before_iff {p q : Position} : p.before q = true ↔ p.key < q.key := by
  rw [key_lt_key_iff]
  simp [before]

lemma key_min (p q : Position) : (p.min q).key = Min.min p.key q.key := by
  rw [Position.min]
  split
  · next h => exact (min_eq_right (before_iff.mp h).le).symm
  · next h => exact (min_eq_left (not_lt.mp (mt before_iff.mpr h))).symm

lemma key_max (p q : Position) : (p.max q).key = Max.max p.key q.key := by
  rw [Position.max]
  split
  · next h => exact (max_eq_left (before_iff.mp h).le).symm
  · next h => exact (max_eq_right (not_lt.mp (mt before_iff.mpr h))).symm

end Position

namespace Selection

variable {s : Selection}

/-- The beginning is the smaller of the two ends. -/
lemma key_start (s : Selection) : s.start.key = min s.anchor.key s.active.key :=
  Position.key_min _ _

/-- The stop is the larger of the two ends. -/
lemma key_stop (s : Selection) : s.stop.key = max s.anchor.key s.active.key :=
  Position.key_max _ _

lemma start_le_stop (s : Selection) : s.start.key ≤ s.stop.key := by
  rw [key_start, key_stop]
  exact (min_le_left _ _).trans (le_max_left _ _)

lemma start_line_le (s : Selection) : s.start.line ≤ s.stop.line := by
  rcases Position.key_le_key_iff.mp s.start_le_stop with h | ⟨h, -⟩
  · exact h.le
  · exact h.le

/-- What is covered lies between the ends, of which there are two. -/
lemma covers_iff {p : Position} :
    s.covers p = true ↔ s.anchor ≠ s.active ∧ s.start.key ≤ p.key ∧ p.key < s.stop.key := by
  have hcovers : s.covers p = true ↔ s.start.key ≤ p.key ∧ p.key < s.stop.key := by
    rw [covers, Bool.and_eq_true, Bool.not_eq_true', Bool.eq_false_iff, ne_eq, Position.before_iff,
      Position.before_iff, not_lt]
  rw [hcovers]
  constructor
  · rintro ⟨hstart, hstop⟩
    refine ⟨?_, hstart, hstop⟩
    intro heq
    rw [key_start, heq, min_self] at hstart
    rw [key_stop, heq, max_self] at hstop
    exact absurd hstop (not_lt.mpr hstart)
  · rintro ⟨-, hstart, hstop⟩
    exact ⟨hstart, hstop⟩

end Selection

end LineSearch
