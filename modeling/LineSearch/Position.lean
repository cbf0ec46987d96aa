/-
# Positions, selections and matches

Positions are ordered by line and then by column.  A selection has a fixed end, the anchor, and an
end that moves, the active one, which is where the cursor is.

A span is a stretch of a line, counted in characters.  A match is a line together with the spans
that its conditions found, in the order of the conditions.
-/

namespace LineSearch

/-- A place between the characters of a document. -/
structure Position where
  line : Nat
  column : Nat
  deriving DecidableEq, Repr

namespace Position

/-- Whether `p` comes before `q`. -/
def before (p q : Position) : Bool :=
  p.line < q.line || (p.line == q.line && p.column < q.column)

/-- The smaller of two positions. -/
def min (p q : Position) : Position := if q.before p then q else p

/-- The larger of two positions. -/
def max (p q : Position) : Position := if q.before p then p else q

/-- The very beginning. -/
def zero : Position := ⟨0, 0⟩

end Position

/-- A stretch of a document between two positions, in either direction. -/
structure Selection where
  anchor : Position
  active : Position
  deriving DecidableEq, Repr

namespace Selection

/-- The empty selection at a position. -/
def cursor (p : Position) : Selection := ⟨p, p⟩

/-- The end that comes first. -/
def start (s : Selection) : Position := s.anchor.min s.active

/-- The end that comes last. -/
def stop (s : Selection) : Position := s.anchor.max s.active

/-- Whether both ends are one position. -/
def isEmpty (s : Selection) : Bool := s.anchor == s.active

/-- Whether the character after a position is selected. -/
def covers (s : Selection) (p : Position) : Bool := !p.before s.start && p.before s.stop

end Selection

/-- A stretch of a line: its first column and its length. -/
structure Span where
  start : Nat
  length : Nat
  deriving DecidableEq, Repr

/-- The first column after the span. -/
def Span.stop (s : Span) : Nat := s.start + s.length

/-- A line that meets all conditions, and the span that each condition found. -/
structure LineMatch where
  line : Nat
  spans : List Span
  deriving DecidableEq, Repr

end LineSearch
