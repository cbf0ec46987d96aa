/-
# Filters: all conditions of a query together

A line passes a filter if it meets every condition.  Each condition that is not negated
contributes the span that it found; a negated one contributes nothing.  A condition that is no
valid expression is met by no line, negated or not.

`Document.scan` is all lines of a document that pass, in order, each with the spans that were found
in it.
-/
import LineSearch.Document
import LineSearch.Term

namespace LineSearch

/-- A term and whether it must not be found. -/
structure Condition where
  term : Term
  negate : Bool

/-- The conditions that a line has to meet. -/
structure Filter where
  conditions : List Condition

namespace Filter

/-- The filter of some predicates. -/
def ofPredicates [Regex.Engine] (ps : List Predicate) : Filter :=
  ⟨ps.map fun p => ⟨Term.compile p, p.negate⟩⟩

end Filter

/-- The spans that a condition contributes to a line that meets it; `none` if the line does not. -/
def Condition.spans? (c : Condition) (line : Text) : Option (List Span) :=
  if c.term.isInvalid then none
  else
    match c.term.firstMatch line, c.negate with
    | some span, false => some [span]
    | none, true => some []
    | _, _ => none

namespace Filter

/-- The spans that conditions contribute, in order; `none` if the line fails one of them. -/
def spansOf : List Condition → Text → Option (List Span)
  | [], _ => some []
  | c :: rest, line => do
    let found ← c.spans? line
    let more ← spansOf rest line
    return found ++ more

/-- The match of a line, if it meets every condition. -/
def matchLine (f : Filter) (number : Nat) (line : Text) : Option LineMatch :=
  (spansOf f.conditions line).map fun spans => ⟨number, spans⟩

/-- The matches among the lines, the first of which has the given number. -/
def scanFrom (f : Filter) (number : Nat) : List Text → List LineMatch
  | [] => []
  | line :: rest =>
    match f.matchLine number line with
    | some m => m :: f.scanFrom (number + 1) rest
    | none => f.scanFrom (number + 1) rest

/-- The matches of a document. -/
def scan (f : Filter) (d : Document) : List LineMatch := f.scanFrom 0 d.lines

end Filter

/-- The lines of a document that meet all conditions. -/
def Document.scan [Regex.Engine] (d : Document) (ps : List Predicate) : List LineMatch :=
  (Filter.ofPredicates ps).scan d

end LineSearch
