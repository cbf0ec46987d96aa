/-
# Queries

A query is what is typed to search: words separated by white space, each of which is a condition
that a line has to meet.  A word that begins with an exclamation mark is a condition that must not
be met; one whose body begins with a slash is a regular expression.  A word with an upper-case
character in it tells upper and lower case apart.

`Query.parse` reads the words of a query, and `Predicate.render` writes one of them.
-/
import LineSearch.Text.Case
import LineSearch.Text.Whitespace

namespace LineSearch

/-- One condition on lines. -/
structure Predicate where
  /-- The word that is looked for, or the whole regular expression with its slashes. -/
  pattern : Text
  isRegex : Bool
  caseSensitive : Bool
  /-- The condition asks that the pattern does not occur. -/
  negate : Bool
  deriving DecidableEq, Repr

namespace Predicate

/-- The condition that a word of a query stands for. -/
def ofWord (word : Text) : Predicate :=
  let negate := word.head? == some '!'
  let body := if negate then word.tail else word
  { pattern := body
    isRegex := body.head? == some '/'
    caseSensitive := word.any Text.isUppercase
    negate }

/-- The word that stands for a condition. -/
def render (p : Predicate) : Text := if p.negate then '!' :: p.pattern else p.pattern

end Predicate

namespace Query

/-- The conditions of a query, in order. -/
def parse (query : Text) : List Predicate := query.words.map Predicate.ofWord

/-- The text that is shown while nothing has been typed. -/
def placeholder : Text := "type 2 or more chars to search".toList

/-- How many characters a query needs before lines are searched. -/
def minLength : Nat := 2

/-- Whether lines are searched for the query: it is long enough, blanks at its ends apart, and is
not the placeholder. -/
def isSearchable (query : Text) : Bool :=
  let core := query.trim
  minLength ≤ core.length && core != placeholder

end Query

end LineSearch
