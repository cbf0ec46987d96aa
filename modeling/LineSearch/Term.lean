/-
# Terms: conditions made ready for the search

A condition is compiled once and then tried on every line.  A literal is a text to be found; if
case does not matter the text is lowered in advance, and the lines are lowered character by
character while they are searched, so that each place of the lowered line belongs to a character of
the line.  A regular expression is read in advance by the engine, which may refuse it.

`findExact` and `findIgnoringCase` give the column of the first occurrence, and `Term.firstMatch`
the span that a term finds.
-/
import LineSearch.Position
import LineSearch.Query
import LineSearch.Regex.Engine
import LineSearch.Regex.Literal
import LineSearch.Text.Lowercase

namespace LineSearch

namespace Text

/-- The number of characters before the first place where `needle` occurs. -/
def findExact (needle : Text) : Text → Option Nat
  | [] => if needle = [] then some 0 else none
  | c :: rest =>
    if needle.isPrefixOf (c :: rest) then some 0
    else (findExact needle rest).map (· + 1)

/-- The lower case of every character, each character of it with the column that it comes from;
`column` is the column of the first one. -/
def lowerWithColumns (column : Nat) : Text → List (Char × Nat)
  | [] => []
  | c :: rest => (lowerChar c).map (·, column) ++ lowerWithColumns (column + 1) rest

/-- The column that the first occurrence of `needle` in the lower case of a line comes from. -/
def findIgnoringCase (line needle : Text) : Option Nat :=
  if needle = [] then some 0
  else
    let lowered := lowerWithColumns 0 line
    (findExact needle (lowered.map Prod.fst)).bind fun place => (lowered[place]?).map Prod.snd

end Text

/-- A condition made ready for the search. -/
inductive Term where
  /-- A text to be found; `length` is the number of characters of the pattern as it was typed. -/
  | literal (needle : Text) (caseSensitive : Bool) (length : Nat)
  /-- An expression; if it is sticky its first match has to begin the line. -/
  | regex (matcher : Regex.Matcher) (sticky : Bool)
  /-- A word that was meant as a regular expression and is none. -/
  | invalid (error : RegexError)

namespace Term

/-- Has the body of a regular expression read under its flags. -/
def ofRegexLiteral [Regex.Engine] (l : RegexLiteral) : Term :=
  let options : Regex.Options :=
    { ignoreCase := l.flags.ignoreCase, multiLine := l.flags.multiLine }
  match Regex.Engine.compile? options l.body with
  | some m => regex m l.flags.sticky
  | none => invalid .invalidBody

/-- The term of a condition.  Whether the condition is negated plays no part. -/
def compile [Regex.Engine] (p : Predicate) : Term :=
  if p.isRegex then
    match RegexLiteral.parse p.pattern with
    | .ok l => ofRegexLiteral l
    | .error e => invalid e
  else
    literal (if p.caseSensitive then p.pattern else p.pattern.lower) p.caseSensitive
      p.pattern.length

/-- Whether the term is no expression. -/
def isInvalid : Term → Bool
  | invalid _ => true
  | _ => false

/-- The span that a term finds in a line.  A literal's span has the length of the pattern as it was
typed. -/
def firstMatch : Term → Text → Option Span
  | literal needle caseSensitive length, line =>
    (if caseSensitive then Text.findExact needle line
      else Text.findIgnoringCase line needle).map fun start => ⟨start, length⟩
  | regex m sticky, line =>
    match m.find line with
    | some (start, stop) => if sticky && start != 0 then none else some ⟨start, stop - start⟩
    | none => none
  | invalid _, _ => none

end Term

end LineSearch
