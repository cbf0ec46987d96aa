/-
# Regular expressions

The expressions of the search, as trees.  Everything that depends on flags (case, lines, blanks)
is settled when an expression is read, so the tree alone says what it matches.

An assertion looks at the characters on both sides of a place and reads none of them.
-/
import LineSearch.Regex.CharSet

namespace LineSearch.Regex

/-- Assertions about a place in a text. -/
inductive Assertion where
  | textStart
  | textEnd
  /-- Before the first character, or after a newline. -/
  | lineStart
  /-- After the last character, or before a newline. -/
  | lineEnd
  /-- As `lineStart`, where a carriage return and a newline together, or either alone, end a
  line. -/
  | lineStartCrlf
  /-- As `lineEnd`, where a carriage return and a newline together, or either alone, end a line. -/
  | lineEndCrlf
  /-- A word character on exactly one side. -/
  | wordBoundary (words : CharSet)
  | notWordBoundary (words : CharSet)
  /-- A word character after the place and none before it. -/
  | wordStart (words : CharSet)
  /-- A word character before the place and none after it. -/
  | wordEnd (words : CharSet)
  /-- No word character before the place. -/
  | noWordBefore (words : CharSet)
  /-- No word character after the place. -/
  | noWordAfter (words : CharSet)
  deriving DecidableEq, Repr

/-- Whether the assertion holds between the character before a place and the one after it. -/
def Assertion.holds (before after : Option Char) : Assertion → Bool
  | textStart => before.isNone
  | textEnd => after.isNone
  | lineStart => before.isNone || before == some '\n'
  | lineEnd => after.isNone || after == some '\n'
  | lineStartCrlf =>
    before.isNone || before == some '\n' || (before == some '\r' && after != some '\n')
  | lineEndCrlf =>
    after.isNone || after == some '\r' || (after == some '\n' && before != some '\r')
  | wordBoundary w => before.any w.contains != after.any w.contains
  | notWordBoundary w => before.any w.contains == after.any w.contains
  | wordStart w => !before.any w.contains && after.any w.contains
  | wordEnd w => before.any w.contains && !after.any w.contains
  | noWordBefore w => !before.any w.contains
  | noWordAfter w => !after.any w.contains

/-- A regular expression.  Of the ways in which it can match, those of the first alternative are
preferred to those of the second, and a repetition prefers more rounds if it is greedy and fewer if
it is not. -/
inductive Expr where
  | empty
  | assertion (a : Assertion)
  | chars (s : CharSet)
  | seq (first second : Expr)
  | alt (first second : Expr)
  | rounds (body : Expr) (least : Nat) (most : Option Nat) (greedy : Bool)
  deriving DecidableEq, Repr

namespace Expr

/-- An expression that matches nowhere. -/
def never : Expr := chars .empty

/-- The expressions one after the other. -/
def seqAll : List Expr → Expr
  | [] => empty
  | [e] => e
  | e :: rest => seq e (seqAll rest)

/-- The expressions as alternatives, the first preferred. -/
def altAll : List Expr → Expr
  | [] => never
  | [e] => e
  | e :: rest => alt e (altAll rest)

/-- How many single steps the expression has when its repetitions are written out. -/
def size : Expr → Nat
  | empty => 1
  | assertion _ => 1
  | chars _ => 1
  | seq a b => a.size + b.size
  | alt a b => a.size + b.size + 1
  | rounds body least most _ =>
    match most with
    | none => body.size * max least 1 + 1
    | some k => (body.size + 1) * max k 1

end Expr

end LineSearch.Regex
