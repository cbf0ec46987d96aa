/-
# Where a regular expression matches

For a fixed text, an expression is described by a table: entry `i` lists the places where a match
that begins at `i` may end, the most preferred first and each place once.  The table of an
expression is put together from the tables of its parts.

What follows a part depends only on the place that the part reached.  So of two ways to reach the
same place the less preferred one can be left out, and no list is longer than the text.

`Engine.tables` is the engine that works this way.  It is one engine among others: it knows the
properties of `PropertyName` by name and no more, and it has limits of its own.
-/
import LineSearch.Regex.Engine
import LineSearch.Regex.Parser

namespace LineSearch.Regex

/-- For every place of a text, the places where a match from there may end, in order of
preference. -/
abbrev EndTable := Array (List Nat)

namespace EndTable

/-- The ends of the matches that begin at `i`. -/
def endsFrom (t : EndTable) (i : Nat) : List Nat := t.getD i []

/-- The first occurrences of the numbers below the size of `seen` that are not marked there. -/
def firstOccurrences (seen : Array Bool) : List Nat → List Nat
  | [] => []
  | x :: rest =>
    if seen.getD x true then firstOccurrences seen rest
    else x :: firstOccurrences (seen.setIfInBounds x true) rest

/-- Each of the places `0, …, length` that the list holds, once, in the order of the list. -/
def distinct (length : Nat) (places : List Nat) : List Nat :=
  firstOccurrences (Array.replicate (length + 1) false) places

/-- The table with the entries `f 0, …, f length`. -/
def tabulate (length : Nat) (f : Nat → List Nat) : EndTable :=
  Array.ofFn fun i : Fin (length + 1) => f i

/-- One part and then another. -/
def compose (length : Nat) (first second : EndTable) : EndTable :=
  tabulate length fun i => distinct length ((first.endsFrom i).flatMap second.endsFrom)

/-- One part or else another. -/
def orElse (length : Nat) (first second : EndTable) : EndTable :=
  tabulate length fun i => distinct length (first.endsFrom i ++ second.endsFrom i)

/-- Nothing at all: every match ends where it begins. -/
def still (length : Nat) : EndTable := tabulate length fun i => [i]

/-- Exactly so many rounds of a part. -/
def exactly (length : Nat) (body : EndTable) : Nat → EndTable
  | 0 => still length
  | k + 1 => compose length body (exactly length body k)

/-- The order of preference between more rounds and staying at `i`. -/
def preferring (greedy : Bool) (i : Nat) (more : List Nat) : List Nat :=
  if greedy then more ++ [i] else i :: more

/-- At most so many rounds of a part. -/
def atMost (length : Nat) (greedy : Bool) (body : EndTable) : Nat → EndTable
  | 0 => still length
  | k + 1 =>
    let fewer := atMost length greedy body k
    tabulate length fun i =>
      distinct length (preferring greedy i ((body.endsFrom i).flatMap fewer.endsFrom))

/-- The entries `length, length - 1, …` of the table of any number of rounds, `k` of them.  A round
that reads nothing is the last one. -/
def anyFromEnd (length : Nat) (greedy : Bool) (body : EndTable) : Nat → EndTable
  | 0 => #[]
  | k + 1 =>
    let later := anyFromEnd length greedy body k
    let i := length - k
    let more := (body.endsFrom i).flatMap fun j =>
      if j ≤ i then [i] else later.endsFrom (length - j)
    later.push (distinct length (preferring greedy i more))

/-- Any number of rounds of a part. -/
def any (length : Nat) (greedy : Bool) (body : EndTable) : EndTable :=
  (anyFromEnd length greedy body (length + 1)).reverse

end EndTable

namespace Expr

/-- The character before place `i`. -/
def charBefore (text : Array Char) : Nat → Option Char
  | 0 => none
  | i + 1 => text[i]?

/-- The table of an expression on a text. -/
def ends (text : Array Char) : Expr → EndTable
  | empty => EndTable.still text.size
  | assertion a =>
    EndTable.tabulate text.size fun i =>
      if a.holds (charBefore text i) text[i]? then [i] else []
  | chars s =>
    EndTable.tabulate text.size fun i => if text[i]?.any s.contains then [i + 1] else []
  | seq a b => EndTable.compose text.size (a.ends text) (b.ends text)
  | alt a b => EndTable.orElse text.size (a.ends text) (b.ends text)
  | rounds body least most greedy =>
    let round := body.ends text
    let further :=
      match most with
      | none => EndTable.any text.size greedy round
      | some k => EndTable.atMost text.size greedy round (k - least)
    EndTable.compose text.size (EndTable.exactly text.size round least) further

/-- The first place from `i` on, among the next `count`, where a match begins, and its preferred
end. -/
def firstFrom (table : EndTable) (i : Nat) : Nat → Option (Nat × Nat)
  | 0 => none
  | count + 1 =>
    match table.endsFrom i with
    | stop :: _ => some (i, stop)
    | [] => firstFrom table (i + 1) count

/-- The start and the end of the leftmost match, the preferred one of those that begin there. -/
def find (e : Expr) (t : Text) : Option (Nat × Nat) :=
  let text := t.toArray
  firstFrom (e.ends text) 0 (text.size + 1)

end Expr

/-- The engine that reads a pattern into a tree and finds matches by tables. -/
@[reducible]
def Engine.tables : Engine where
  compile? options pattern :=
    let flags : Flags := { ignoreCase := options.ignoreCase, multiLine := options.multiLine }
    (Expr.parse? flags pattern).map fun e => ⟨e.find⟩

end LineSearch.Regex
