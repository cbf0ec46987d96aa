/-
# Binary floating point numbers

The numbers of the usual format of 64 bits: a mantissa of 53 bits and a power of two.  Three
functions on them are needed here, and all of them are exact: `Binary64.nearest` rounds a quotient,
with ties to the even mantissa; `Binary64.ofDecimal` reads a decimal number; and `Binary64.text`
writes the fewest digits from which the number is read back.
-/
import LineSearch.Text.Digit

namespace LineSearch.Data

/-- A floating point number; a finite one is `mantissa * 2 ^ exponent`, and has a sign even if it is
zero. -/
inductive Binary64 where
  | notANumber
  | infinite (negative : Bool)
  | finite (negative : Bool) (mantissa : Nat) (exponent : Int)
  deriving DecidableEq, Repr

namespace Binary64

/-- The lowest exponent of the format. -/
def minExponent : Int := -1074

/-- The highest exponent of the format. -/
def maxExponent : Int := 971

/-- The number of different mantissas. -/
def mantissas : Nat := 0x20000000000000

/-- The quotient rounded to the nearest number, and to the even one of two. -/
def roundHalfEven (a b : Nat) : Nat :=
  let q := a / b
  let r := a % b
  if 2 * r < b then q
  else if b < 2 * r then q + 1
  else q + q % 2

/-- A quotient, by `base ^ e`, of two numbers as a quotient of two numbers. -/
def scaleDown (base : Nat) (e : Int) (a b : Nat) : Nat × Nat :=
  match e with
  | .ofNat e => (a, b * Nat.pow base e)
  | .negSucc e => (a * Nat.pow base (e + 1), b)

/-- The exponent with which `a / b` has a mantissa of full length, or else the lowest one. -/
def exponentOf (a b : Nat) : Int :=
  let e : Int := (a.log2 : Int) - (b.log2 : Int) - 52
  let (a, b) := scaleDown 2 e a b
  max (if a / b < mantissas / 2 then e - 1 else e) minExponent

/-- The number that is nearest to `a / b`, for `b` other than zero. -/
def nearest (negative : Bool) (a b : Nat) : Binary64 :=
  if a = 0 then finite negative 0 minExponent
  else
    let e := exponentOf a b
    let (a, b) := scaleDown 2 e a b
    let m := roundHalfEven a b
    let (m, e) := if m = mantissas then (m / 2, e + 1) else (m, e)
    if maxExponent < e then infinite negative else finite negative m e

/-- The number that is nearest to `n * 10 ^ e`.  Exponents are cut off where the answer is clear. -/
def ofDecimal (negative : Bool) (n : Nat) (e : Int) : Binary64 :=
  let top : Int := (Text.decimal n).length + e
  if n = 0 || top < -400 then nearest negative 0 1
  else if 400 < top then infinite negative
  else
    let (a, b) := scaleDown 10 (-e) n 1
    nearest negative a b

/-- Whether it is zero, of either sign. -/
def isZero : Binary64 → Bool
  | finite _ m _ => m == 0
  | _ => false

/-- How many digits the whole part of `a / b` has; for a fraction, as many less than none as zeros
follow the point. -/
def pointPlace (a b : Nat) : Int :=
  if b ≤ a then (Text.decimal (a / b)).length
  else zeros 400 a
where
  zeros : Nat → Nat → Int
    | 0, _ => 0
    | fuel + 1, a => if b ≤ a * 10 then 0 else zeros fuel (a * 10) - 1

/-- The decimal number `d * 10 ^ e` with at most so many digits that is nearest to `value` and lies
between `low` and `high`, all of them in units of `1 / b`; the bounds belong to it if they are
`closed`. -/
def shortestIn (closed : Bool) (low value high b : Nat) : (more digits : Nat) → Nat × Int
  | 0, digits => (0, digits)
  | more + 1, digits =>
    let e := pointPlace value b - digits
    let (value', unit) := scaleDown 10 e value b
    let low' := (scaleDown 10 e low b).1
    let high' := (scaleDown 10 e high b).1
    let d := value' / unit
    let inside (d : Nat) : Bool :=
      if closed then low' ≤ d * unit && d * unit ≤ high' else low' < d * unit && d * unit < high'
    if inside (d + 1) && (!inside d || unit ≤ 2 * (value' % unit)) then
      if d + 1 = Nat.pow 10 digits then (1, e + digits) else (d + 1, e)
    else if inside d then (d, e)
    else shortestIn closed low value high b more (digits + 1)

/-- The shortest decimal number `d * 10 ^ e` that is read back as `m * 2 ^ q`. -/
def shortest (m : Nat) (q : Int) : Nat × Int :=
  let below := if m = mantissas / 2 && minExponent < q then 1 else 2
  let (four, b) := scaleDown 2 (2 - q) 1 1
  let unit (n : Nat) : Nat := n * four
  shortestIn (m % 2 == 0) (unit (4 * m - below)) (unit (4 * m)) (unit (4 * m + 2)) b 17 1

/-- Digits with a point where `d * 10 ^ e` has it. -/
def positional (d : Nat) (e : Int) : Text :=
  let digits := Text.decimal d
  match e with
  | .ofNat e => digits ++ List.replicate e '0'
  | .negSucc e =>
    let padded := List.replicate (e + 2 - digits.length) '0' ++ digits
    padded.take (padded.length - (e + 1)) ++ '.' :: padded.drop (padded.length - (e + 1))

/-- The digits of the number, without an exponent and without a point where none is needed. -/
def text : Binary64 → Text
  | notANumber => "NaN".toList
  | infinite negative => (if negative then ['-'] else []) ++ "inf".toList
  | finite negative m q =>
    (if negative then ['-'] else []) ++
      if m = 0 then ['0']
      else
        let (d, e) := shortest m q
        positional d e

end Binary64

end LineSearch.Data
