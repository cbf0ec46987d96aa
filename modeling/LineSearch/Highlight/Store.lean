/-
# What is painted

The ranges of every bucket, and an index by line from which the style of a single character is
found.  Where ranges overlap the lowest bucket is seen.
-/
import LineSearch.Highlight.Buckets
import Std.Data.HashMap

namespace LineSearch.Highlight

/-- The ranges that are painted, bucket by bucket, and the same by line, each with its bucket. -/
structure Store where
  buckets : List (List Range) := []
  byLine : Std.HashMap Nat (List (Nat × Range)) := {}

namespace Store

/-- The ranges of a bucket. -/
def ranges (s : Store) (bucket : Nat) : List Range := s.buckets.getD bucket []

/-- The lowest of some numbers. -/
def lowest : List Nat → Option Nat
  | [] => none
  | n :: rest =>
    match lowest rest with
    | none => some n
    | some k => some (min n k)

/-- The lowest bucket with a range that covers the place. -/
def bucketAt (s : Store) (line column : Nat) : Option Nat :=
  lowest <| ((s.byLine.getD line []).filter fun (_, r) => r.covers line column).map Prod.fst

/-- Whether nothing is painted. -/
def isEmpty (s : Store) : Bool := s.byLine.isEmpty

/-- The ranges with their buckets, the first bucket having the number `bucket`. -/
def entriesFrom (bucket : Nat) : List (List Range) → List (Nat × Range)
  | [] => []
  | ranges :: rest => ranges.map (bucket, ·) ++ entriesFrom (bucket + 1) rest

/-- The index of the given ranges. -/
def index (buckets : List (List Range)) : Std.HashMap Nat (List (Nat × Range)) :=
  (entriesFrom 0 buckets).foldl
    (fun byLine entry => byLine.insert entry.2.line (byLine.getD entry.2.line [] ++ [entry])) {}

/-- Replaces the ranges of a bucket; buckets up to it come into being. -/
def set (s : Store) (bucket : Nat) (ranges : List Range) : Store :=
  let room := s.buckets ++ List.replicate (bucket + 1 - s.buckets.length) []
  let buckets := room.set bucket ranges
  { buckets, byLine := index buckets }

/-- Does what a painter is told. -/
def paint (s : Store) : Paint → Store
  | .clear => {}
  | .set bucket ranges => s.set bucket ranges

end Store

end LineSearch.Highlight
