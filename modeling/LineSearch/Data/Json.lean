/-
# Reading JSON

`Json.parse?` reads the value that a text writes in the usual notation of braces, brackets and
quotes.  Of several entries of one name the last one counts.  A whole number is read exactly as far
as 64 bits go; beyond that, and with a point or an exponent, it becomes a floating point number.
-/
import LineSearch.Data.Value
import LineSearch.Text.Digit

namespace LineSearch.Data

/-- The range of whole numbers. -/
def isInt64 (n : Int) : Bool := -0x8000000000000000 ≤ n && n < 0x8000000000000000

namespace Json

/-- How deeply lists and tables may be nested. -/
def nestingLimit : Nat := 127

/-- Passes over blanks. -/
def skip (t : Text) : Text := t.dropWhile fun c => c == ' ' || c == '\t' || c == '\n' || c == '\r'

/-! ## Texts -/

/-- The number that four hexadecimal digits write, and what follows them. -/
def unit? (t : Text) : Option (Nat × Text) :=
  if t.length < 4 then none else (Text.number? 16 (t.take 4)).map fun n => (n, t.drop 4)

/-- The character of a number in front of the text; one beyond 16 bits takes two numbers. -/
def numbered? (t : Text) : Option (Char × Text) := do
  let (high, rest) ← unit? t
  if 0xD800 ≤ high && high < 0xDC00 then
    match rest with
    | '\\' :: 'u' :: rest =>
      let (low, rest) ← unit? rest
      if 0xDC00 ≤ low && low < 0xE000 then
        let c ← Text.scalar? (0x10000 + (high - 0xD800) * 0x400 + (low - 0xDC00))
        return (c, rest)
      else none
    | _ => none
  else
    let c ← Text.scalar? high
    return (c, rest)

/-- What stands behind a backslash. -/
def escape? : Text → Option (Char × Text)
  | '"' :: rest => some ('"', rest)
  | '\\' :: rest => some ('\\', rest)
  | '/' :: rest => some ('/', rest)
  | 'b' :: rest => some ('\x08', rest)
  | 'f' :: rest => some ('\x0c', rest)
  | 'n' :: rest => some ('\n', rest)
  | 'r' :: rest => some ('\r', rest)
  | 't' :: rest => some ('\t', rest)
  | 'u' :: rest => numbered? rest
  | _ => none

/-- The text up to the closing quote, and what follows it. -/
def quoted? : (fuel : Nat) → Text → Option (Text × Text)
  | 0, _ => none
  | _ + 1, [] => none
  | _ + 1, '"' :: rest => some ([], rest)
  | fuel + 1, '\\' :: rest => do
    let (c, rest) ← escape? rest
    let (t, rest) ← quoted? fuel rest
    return (c :: t, rest)
  | fuel + 1, c :: rest => do
    if c.toNat < 0x20 then none
    let (t, rest) ← quoted? fuel rest
    return (c :: t, rest)

/-! ## Numbers -/

/-- The parts of a written number: the digits before the point, those after it, and the exponent. -/
structure Numeral where
  negative : Bool
  whole : List Nat
  fraction : List Nat := []
  exponent : Option Int := none

/-- The digits in front of a text, and what follows them. -/
def digits (t : Text) : List Nat × Text :=
  ((t.takeWhile Char.isDigit).filterMap (Text.digit? 10), t.dropWhile Char.isDigit)

/-- The exponent, if there is one. -/
def exponent? (t : Text) : Option (Option Int × Text) :=
  match t with
  | c :: rest =>
    if c == 'e' || c == 'E' then
      let (negative, rest) := match rest with
        | '-' :: rest => (true, rest)
        | '+' :: rest => (false, rest)
        | rest => (false, rest)
      let (ds, rest) := digits rest
      let n : Int := Text.ofDigits 10 ds
      if ds = [] then none else some (some (if negative then -n else n), rest)
    else some (none, t)
  | [] => some (none, [])

/-- Reads a number. -/
def numeral? (t : Text) : Option (Numeral × Text) := do
  let (negative, t) := match t with
    | '-' :: rest => (true, rest)
    | t => (false, t)
  let (whole, t) := digits t
  if whole = [] || (whole.head? == some 0 && 1 < whole.length) then none
  let (fraction, t) ← match t with
    | '.' :: rest =>
      let (ds, rest) := digits rest
      if ds = [] then none else some (ds, rest)
    | t => some ([], t)
  let (exponent, t) ← exponent? t
  return ({ negative, whole, fraction, exponent }, t)

/-- The number of the leading digits, as many as fit into 64 bits, and how many digits are left. -/
def leading : (n : Nat) → List Nat → Nat × Nat
  | n, [] => (n, 0)
  | n, d :: ds =>
    if 10 * n + d ≤ 0xFFFFFFFFFFFFFFFF then leading (10 * n + d) ds else (n, (d :: ds).length)

/-- The quotient of a floating point number by a power of ten, or its product with one. -/
def shift (x : Binary64) (e : Int) : Binary64 :=
  match x, Binary64.ofDecimal false 1 e.natAbs with
  | .finite negative m q, .finite _ m' q' =>
    let (a, b) := if 0 ≤ e then Binary64.scaleDown 2 (-(q + q')) (m * m') 1
      else Binary64.scaleDown 2 (q' - q) m m'
    Binary64.nearest negative a b
  | x, _ => x

/-- The floating point number of the leading digits and a power of ten.  Each step is rounded by
itself; a number beyond all floating point numbers is refused. -/
def float? (negative : Bool) (n : Nat) (e : Int) : Option Binary64 :=
  let start := Binary64.nearest negative n 1
  let answer :=
    if n = 0 then start
    else if -308 ≤ e then if e ≤ 308 then shift start e else .infinite negative
    else if -616 ≤ e then shift (shift start (-308)) (e + 308)
    else Binary64.nearest negative 0 1
  match answer with
  | .infinite _ => none
  | x => some x

/-- The value of a written number. -/
def Numeral.value? (n : Numeral) : Option Value :=
  let (head, left) := leading 0 n.whole
  if left = 0 && n.fraction = [] && n.exponent = none then
    let i : Int := if n.negative then -head else head
    if isInt64 i && !(n.negative && head == 0) then some (.integer i)
    else (float? n.negative head 0).map .float
  else
    let (head, exponent) :=
      if left = 0 then
        let (all, dropped) := leading head n.fraction
        (all, -((n.fraction.length - dropped : Nat) : Int))
      else (head, (left : Int))
    (float? n.negative head (exponent + n.exponent.getD 0)).map .float

/-! ## Values -/

mutual

/-- Reads the value in front of a text, with lists and tables nested at most so deep. -/
def value? : (fuel : Nat) → (depth : Nat) → Text → Option (Value × Text)
  | 0, _, _ => none
  | fuel + 1, depth, t =>
    match skip t with
    | '"' :: rest => (quoted? rest.length.succ rest).map fun (t, rest) => (.text t, rest)
    | '[' :: rest =>
      match depth, skip rest with
      | 0, _ => none
      | _ + 1, ']' :: rest => some (.list [], rest)
      | depth + 1, rest => (items? fuel depth rest).map fun (vs, rest) => (.list vs, rest)
    | '\x7b' :: rest =>
      match depth, skip rest with
      | 0, _ => none
      | _ + 1, '\x7d' :: rest => some (.table [], rest)
      | depth + 1, rest => (entries? fuel depth [] rest).map fun (es, rest) => (.table es, rest)
    | 'n' :: 'u' :: 'l' :: 'l' :: rest => some (.nothing, rest)
    | 't' :: 'r' :: 'u' :: 'e' :: rest => some (.bool true, rest)
    | 'f' :: 'a' :: 'l' :: 's' :: 'e' :: rest => some (.bool false, rest)
    | t => do
      let (n, rest) ← numeral? t
      let v ← n.value?
      return (v, rest)

/-- Reads the items of a list and the bracket that closes it. -/
def items? : (fuel : Nat) → (depth : Nat) → Text → Option (List Value × Text)
  | 0, _, _ => none
  | fuel + 1, depth, t => do
    let (v, t) ← value? fuel depth t
    match skip t with
    | ',' :: rest =>
      let (vs, rest) ← items? fuel depth rest
      return (v :: vs, rest)
    | ']' :: rest => return ([v], rest)
    | _ => none

/-- Reads the entries of a table, after those that were read before, and the brace that closes
it. -/
def entries? : (fuel : Nat) → (depth : Nat) → (before : List (Text × Value)) → Text →
    Option (List (Text × Value) × Text)
  | 0, _, _, _ => none
  | fuel + 1, depth, before, t =>
    match skip t with
    | '"' :: rest => do
      let (name, rest) ← quoted? rest.length.succ rest
      match skip rest with
      | ':' :: rest =>
        let (v, rest) ← value? fuel depth rest
        let before := assign name v before
        match skip rest with
        | ',' :: rest => entries? fuel depth before rest
        | '\x7d' :: rest => return (before, rest)
        | _ => none
      | _ => none
    | _ => none

end

/-- The value that a text writes. -/
def parse? (t : Text) : Option Value := do
  let (v, rest) ← value? (2 * t.length + 2) nestingLimit t
  if skip rest = [] then return v else none

end Json

end LineSearch.Data
