/-
# Digits

The values of digits in a base of at most sixteen, and of numbers that are written with them; and
the digits of a number, as they stand in labels, messages and reports.
-/
import LineSearch.Text.Basic

namespace LineSearch.Text

/-- The value of a digit below the base; letters may be of either case. -/
def digit? (base : Nat) (c : Char) : Option Nat :=
  let value :=
    if '0' ≤ c && c ≤ '9' then c.toNat - '0'.toNat
    else if 'a' ≤ c && c ≤ 'f' then c.toNat - 'a'.toNat + 10
    else if 'A' ≤ c && c ≤ 'F' then c.toNat - 'A'.toNat + 10
    else base
  if value < base then some value else none

/-- The number with the given digits, the first of them the highest. -/
def ofDigits (base : Nat) (ds : List Nat) : Nat := ds.foldl (fun n d => base * n + d) 0

/-- The number that a text writes in the given base, if it is digits only and at least one. -/
def number? (base : Nat) (t : Text) : Option Nat :=
  if t = [] then none else (t.mapM (digit? base)).map (ofDigits base)

/-- The character with the given number, if there is one. -/
def scalar? (n : Nat) : Option Char := if n.isValidChar then some (Char.ofNat n) else none

/-- The character whose number is written with exactly so many hexadecimal digits, and what follows
them. -/
def hexScalar? (count : Nat) (t : Text) : Option (Char × Text) :=
  if t.length < count then none
  else do
    let n ← number? 16 (t.take count)
    return (← scalar? n, t.drop count)

/-- The decimal digits of a number. -/
def decimal (n : Nat) : Text := Nat.toDigits 10 n

/-- The text filled up with blanks at its front to the given width. -/
def padLeft (width : Nat) (t : Text) : Text := List.replicate (width - t.length) ' ' ++ t

end LineSearch.Text
