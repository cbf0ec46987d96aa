/-
# Regular expression engines

What a regular expression matches is left to an engine.  The library hands it the body of an
expression and how that is to be read, and asks it for the first match in a line.  Columns and
lengths are all that it takes from a match, so places are counted in characters.

Nothing is assumed of an engine.  A statement that needs more says so; `Engine.FindsInside` is that
matches lie inside the texts in which they are found.
-/
import LineSearch.Text.Basic

namespace LineSearch.Regex

/-- How an expression is to be read. -/
structure Options where
  /-- Upper and lower case are the same. -/
  ignoreCase : Bool
  /-- `^` and `$` hold at every line of the text. -/
  multiLine : Bool
  deriving DecidableEq, Repr

/-- An expression that has been read. -/
structure Matcher where
  /-- Where the first match in a text begins and where it ends. -/
  find : Text → Option (Nat × Nat)

/-- An engine. -/
class Engine where
  /-- Reads an expression; `none` if it is refused. -/
  compile? : Options → Text → Option Matcher

/-- A match does not end before it begins, nor behind the text in which it is found. -/
def Engine.FindsInside [Engine] : Prop :=
  ∀ (options : Options) (body : Text) (m : Matcher), compile? options body = some m →
    ∀ (t : Text) (start stop : Nat), m.find t = some (start, stop) →
      start ≤ stop ∧ stop ≤ t.length

end LineSearch.Regex
