/-
# Sharing out spans among buckets

The spans of a match are painted in the styles of a palette, one bucket for each style: the first
span in the first style, the second in the second, and again from the first when the styles are
used up.  Empty spans are not painted.

`assign` shares out the spans of a list of matches.
-/
import LineSearch.Position

namespace LineSearch.Highlight

/-- A stretch of a line that is painted: from the column `start` up to, and not with, `stop`. -/
structure Range where
  line : Nat
  start : Nat
  stop : Nat
  deriving DecidableEq, Repr

/-- Whether the range covers a column of a line. -/
def Range.covers (r : Range) (line column : Nat) : Bool :=
  r.line == line && r.start ≤ column && column < r.stop

/-- The range that a span of a line takes. -/
def Range.ofSpan (line : Nat) (s : Span) : Range := ⟨line, s.start, s.stop⟩

/-- Adds the spans of a line to the buckets, the first of them to the bucket of number `index`,
counted around. -/
def addSpans (line : Nat) : (index : Nat) → List Span → List (List Range) → List (List Range)
  | _, [], buckets => buckets
  | index, s :: rest, buckets =>
    addSpans line (index + 1) rest <|
      if s.length = 0 then buckets
      else buckets.modify (index % buckets.length) (· ++ [Range.ofSpan line s])

/-- The ranges of each of `count` buckets. -/
def assign (matched : List LineMatch) (count : Nat) : List (List Range) :=
  matched.foldl (fun buckets m => addSpans m.line 0 m.spans buckets) (List.replicate count [])

/-- How many styles a palette needs. -/
def minBuckets : Nat := 4

/-- The number of styles of a palette, which is large enough. -/
structure Palette where
  buckets : Nat
  enough : minBuckets ≤ buckets

/-- A palette has too few styles: so many. -/
structure PaletteTooSmall where
  got : Nat

namespace PaletteTooSmall

/-- The message when buckets are asked for by number. -/
def message (e : PaletteTooSmall) : String :=
  "highlight palette needs at least " ++ toString minBuckets ++ " buckets, got " ++ toString e.got

end PaletteTooSmall

/-- A palette of so many styles, if they are enough. -/
def Palette.ofCount (n : Nat) : Except PaletteTooSmall Palette :=
  if h : minBuckets ≤ n then .ok ⟨n, h⟩ else .error ⟨n⟩

/-- The palette that is used when none is asked for. -/
def Palette.default : Palette := ⟨6, by decide⟩

/-- What a painter is told to do. -/
inductive Paint where
  | clear
  /-- Replace what is painted in the style of a bucket. -/
  | set (bucket : Nat) (ranges : List Range)
  deriving DecidableEq, Repr

/-- Tells a painter to forget everything and to paint the given matches. -/
def Palette.repaint (p : Palette) (matched : List LineMatch) : List Paint :=
  .clear :: (assign matched p.buckets).mapIdx Paint.set

end LineSearch.Highlight
