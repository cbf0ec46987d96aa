/-
# Sets of characters given by code point ranges

A character property is stored as the sorted list of the code point ranges that have it.  In
stretches where upper and lower case alternate, every second code point has the property; those
are kept in a list of their own, so that a table stays short.

`RangeTable.contains` is the membership test.
-/

namespace LineSearch.Text

/-- A set of code points: all of each range in `ranges`, and of each run in `alternate` the first
code point and every second one after it.  Both lists are sorted. -/
structure RangeTable where
  ranges : List (Nat × Nat)
  alternate : List (Nat × Nat) := []

namespace RangeTable

/-- Whether `n` lies in one of the ranges.  The ranges are sorted, so the search ends at the first
range that does not begin below `n`. -/
def within : List (Nat × Nat) → Nat → Bool
  | [], _ => false
  | (lo, hi) :: rest, n => if n < lo then false else if n ≤ hi then true else within rest n

/-- Whether `n` is the first, third, fifth, … code point of one of the runs. -/
def withinAlternate : List (Nat × Nat) → Nat → Bool
  | [], _ => false
  | (lo, hi) :: rest, n =>
    if n < lo then false
    else if n ≤ hi then (n - lo) % 2 == 0
    else withinAlternate rest n

/-- Whether the table holds the character. -/
def contains (t : RangeTable) (c : Char) : Bool :=
  within t.ranges c.toNat || withinAlternate t.alternate c.toNat

end RangeTable

end LineSearch.Text
