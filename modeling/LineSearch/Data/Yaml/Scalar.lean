/-
# The scalars of YAML

A scalar is a value without parts.  It is written without quotes, in quotes, or as a block of lines
below an indicator; only without quotes can it be anything but a text.  A scalar may go over several
lines, which are folded into one: a single end of a line becomes a blank, and of several the first
one is dropped.
-/
import LineSearch.Data.Json

namespace LineSearch.Data.Yaml

/-- What is left of a file, and the column that it begins in. -/
structure Place where
  column : Nat
  rest : Text

/-- The place behind the first characters, among which no line ends. -/
def Place.drop (p : Place) (n : Nat) : Place := ⟨p.column + n, p.rest.drop n⟩

/-- Whether a character is a blank within a line. -/
def isBlank (c : Char) : Bool := c == ' ' || c == '\t'

/-- Whether a character ends a line. -/
def isBreak (c : Char) : Bool := c == '\n' || c == '\r'

/-- Whether a blank, the end of a line or the end of the file comes next. -/
def atBlank : Text → Bool
  | [] => true
  | c :: _ => isBlank c || isBreak c

/-- Whether a character belongs to the notation of lists and tables in brackets. -/
def isBracket (c : Char) : Bool := c == ',' || c == '[' || c == ']' || c == '\x7b' || c == '\x7d'

/-- What follows the end of a line, if that comes next. -/
def newline? : Text → Option Text
  | '\r' :: '\n' :: rest => some rest
  | '\n' :: rest => some rest
  | '\r' :: rest => some rest
  | _ => none

/-- Whether a line begins with three of the given characters, by which a document begins or ends. -/
def isMark (c : Char) (t : Text) : Bool := t.take 3 == [c, c, c] && atBlank (t.drop 3)

/-- Passes over blanks and ends of lines; the number of ends of lines, and the place behind. -/
def skipBreaks : (fuel : Nat) → (breaks : Nat) → Place → Nat × Place
  | 0, breaks, p => (breaks, p)
  | fuel + 1, breaks, p =>
    let blanks := p.rest.takeWhile isBlank
    let p := p.drop blanks.length
    match newline? p.rest with
    | some rest => skipBreaks fuel (breaks + 1) ⟨0, rest⟩
    | none => (breaks, p)

/-- What ends of lines within a scalar become. -/
def folded (breaks : Nat) : Text :=
  if breaks = 1 then [' '] else List.replicate (breaks - 1) '\n'

/-! ## Values without quotes -/

/-- A whole number within 64 bits, with an optional sign. -/
def integer? (base : Nat) (t : Text) : Option Int :=
  let n : Option Int :=
    match t with
    | '-' :: rest => (Text.number? base rest).map fun n => -(n : Int)
    | '+' :: rest => (Text.number? base rest).map fun n => (n : Int)
    | t => (Text.number? base t).map fun n => (n : Int)
  n.filter isInt64

/-- A number with a point or an exponent; either side of the point may have no digits. -/
def float? (t : Text) : Option Binary64 := do
  let (negative, t) := match t with
    | '-' :: rest => (true, rest)
    | '+' :: rest => (false, rest)
    | t => (false, t)
  let (whole, t) := Json.digits t
  let (fraction, t) := match t with
    | '.' :: rest => Json.digits rest
    | t => ([], t)
  let (exponent, t) ← Json.exponent? t
  if (whole = [] && fraction = []) || t != [] then none
  return Binary64.ofDecimal negative (Text.ofDigits 10 (whole ++ fraction))
    (exponent.getD 0 - fraction.length)

/-- The names of numbers that cannot be written in digits. -/
def isEndless (t : Text) : Bool :=
  let t := match t with
    | '-' :: rest | '+' :: rest => rest
    | t => t
  [".inf", ".Inf", ".INF"].contains (String.ofList t)

/-- The value of a scalar without quotes.  Numbers beyond all others have names, but no values. -/
def plainValue? (t : Text) : Option Value :=
  match String.ofList t with
  | "" | "~" | "null" => some .nothing
  | "true" => some (.bool true)
  | "false" => some (.bool false)
  | ".nan" | ".NaN" | ".NAN" => none
  | _ =>
    let number : Option Int :=
      match t with
      | '0' :: 'x' :: rest => integer? 16 rest
      | '0' :: 'o' :: rest => integer? 8 rest
      | '+' :: rest => integer? 10 rest
      | _ => none
    match number.or (integer? 10 t), float? t with
    | some n, _ => some (.integer n)
    | none, some x => some (.float x)
    | none, none => if isEndless t then none else some (.text t)

/-- The name that a scalar without quotes is as a key. -/
def plainName? (t : Text) : Option Text :=
  match plainValue? t with
  | some .nothing => none
  | some (.integer n) => some (Value.integerText n)
  | _ => some t

/-- Whether the notation of brackets goes on here. -/
def atBracket (inBrackets : Bool) (t : Text) : Bool :=
  inBrackets && (t.head?.map isBracket).getD false

/-- Whether a scalar without quotes can begin here. -/
def startsPlain (inBrackets : Bool) : Text → Bool
  | [] => false
  | c :: rest =>
    if c == '-' || c == '?' || c == ':' then
      !atBlank rest && !atBracket inBrackets rest
    else !(isBracket c || atBlank [c] || "#&*!|>'\"%@\x60".toList.contains c)

/-- How much of a line belongs to a scalar without quotes; `afterBlank` tells whether a blank stands
in front. -/
def plainLength (inBrackets : Bool) : (afterBlank : Bool) → Text → Nat
  | _, [] => 0
  | afterBlank, c :: rest =>
    if isBreak c || (afterBlank && c == '#') || (inBrackets && isBracket c) then 0
    else if c == ':' && (atBlank rest || atBracket inBrackets rest) then 0
    else plainLength inBrackets (isBlank c) rest + 1

/-- The part of a line that belongs to a scalar without quotes, less the blanks at its end. -/
def plainLine (inBrackets : Bool) (t : Text) : Text :=
  ((t.take (plainLength inBrackets false t)).reverse.dropWhile isBlank).reverse

/-- A scalar without quotes; the lines after the first one have to begin behind the column
`parent`. -/
def plain (inBrackets : Bool) (parent : Int) : (fuel : Nat) → Place → Text × Place
  | 0, p => ([], p)
  | fuel + 1, p =>
    let line := plainLine inBrackets p.rest
    let p := p.drop line.length
    let (breaks, next) := skipBreaks (p.rest.length + 1) 0 p
    let starts := next.rest.head? != some '#' && 0 < plainLength inBrackets false next.rest
    if breaks = 0 || !starts || (next.column : Int) ≤ parent
        || (next.column == 0 && (isMark '-' next.rest || isMark '.' next.rest)) then (line, p)
    else
      let (more, p) := plain inBrackets parent fuel next
      (line ++ folded breaks ++ more, p)

/-! ## Quotes -/

/-- What stands behind a backslash. -/
def escape? : Text → Option (Char × Text)
  | 'x' :: rest => Text.hexScalar? 2 rest
  | 'u' :: rest => Text.hexScalar? 4 rest
  | 'U' :: rest => Text.hexScalar? 8 rest
  | c :: rest =>
    let meanings : List (Char × Char) :=
      [('0', '\x00'), ('a', '\x07'), ('b', '\x08'), ('t', '\t'), ('\t', '\t'), ('n', '\n'),
        ('v', '\x0b'), ('f', '\x0c'), ('r', '\r'), ('e', '\x1b'), (' ', ' '), ('"', '"'),
        ('/', '/'), ('\\', '\\'), ('N', '\u0085'), ('_', '\u00a0'), ('L', '\u2028'),
        ('P', '\u2029')]
    (meanings.lookup c).map fun c => (c, rest)
  | [] => none

/-- The text up to the closing quote.  A closing quote written twice stands for itself in single
quotes; in double quotes a backslash gives a character another meaning. -/
def quoted? (quote : Char) : (fuel : Nat) → Place → Option (Text × Place)
  | 0, _ => none
  | fuel + 1, p =>
    let again (t : Text) (p : Place) : Option (Text × Place) :=
      (quoted? quote fuel p).map fun (u, p) => (t ++ u, p)
    match p.rest with
    | [] => none
    | c :: rest =>
      if c == quote then
        if quote == '\'' && rest.head? == some quote then again [c] (p.drop 2)
        else some ([], p.drop 1)
      else if quote == '"' && c == '\\' then
        match newline? rest with
        | some rest =>
          let (breaks, p) := skipBreaks (rest.length + 1) 0 ⟨0, rest⟩
          again (List.replicate breaks '\n') p
        | none => do
          let (c, after) ← escape? rest
          again [c] (p.drop (p.rest.length - after.length))
      else if isBlank c || isBreak c then
        let (breaks, next) := skipBreaks (p.rest.length + 1) 0 p
        if breaks = 0 then again [c] (p.drop 1) else again (folded breaks) next
      else again [c] (p.drop 1)

/-! ## Blocks of lines -/

/-- What happens to the ends of lines at the end of a block. -/
inductive Chomping where
  | clip | strip | keep
  deriving DecidableEq

/-- The lines of a block: those that are indented to the given column, and empty ones. -/
def blockLines (indent : Nat) : (fuel : Nat) → Text → List Text × Text
  | 0, t => ([], t)
  | fuel + 1, t =>
    let blanks := (t.takeWhile (· == ' ')).length
    let line := t.takeWhile fun c => !isBreak c
    let after := (newline? (t.drop line.length)).getD []
    let isEmpty := line.all (· == ' ')
    if t = [] || (blanks < indent && !isEmpty) then ([], t)
    else
      let (lines, rest) := blockLines indent fuel after
      (line.drop indent :: lines, rest)

/-- Folds the lines of a block: lines that are neither empty nor indented further are joined by
blanks. -/
def foldLines : List Text → Text
  | [] => []
  | [line] => line
  | line :: next :: rest =>
    let isFlush (l : Text) : Bool := !atBlank l
    if isFlush line && isFlush next then line ++ ' ' :: foldLines (next :: rest)
    else if isFlush line && next = [] then
      let empty := (next :: rest).takeWhile (· = [])
      match (next :: rest).drop empty.length with
      | after :: _ =>
        if isFlush after then line ++ foldLines (next :: rest)
        else line ++ '\n' :: foldLines (next :: rest)
      | [] => line ++ '\n' :: foldLines (next :: rest)
    else line ++ '\n' :: foldLines (next :: rest)

/-- The letters behind the indicator of a block: how to treat its end, and how far it is
indented. -/
def blockHeader? : (fuel : Nat) → Chomping × Nat → Text → Option ((Chomping × Nat) × Text)
  | 0, _, _ => none
  | fuel + 1, (chomping, indent), t =>
    match t with
    | '-' :: rest => blockHeader? fuel (.strip, indent) rest
    | '+' :: rest => blockHeader? fuel (.keep, indent) rest
    | t =>
      match t.head?.bind (Text.digit? 10) with
      | some 0 => none
      | some d => blockHeader? fuel (chomping, d) t.tail
      | none =>
        let after := t.dropWhile isBlank
        let isComment := after.head? == some '#' && after.length < t.length
        let after := if isComment then after.dropWhile fun c => !isBreak c else after
        if after = [] then some ((chomping, indent), [])
        else (newline? after).map fun rest => ((chomping, indent), rest)

/-- A block of lines below an indicator, which stands within a value that is indented to the column
`parent`. -/
def block? (isFolded : Bool) (parent : Int) (t : Text) : Option (Text × Place) := do
  let ((chomping, shift), t) ← blockHeader? 4 (.clip, 0) t
  let base := (max parent 0).toNat
  let (_, first) := skipBreaks (t.length + 1) 0 ⟨0, t⟩
  let indent := if shift = 0 then max first.column (parent + 1).toNat else base + shift
  let (lines, rest) := blockLines indent (t.length + 1) t
  let body := (lines.reverse.dropWhile (· = [])).reverse
  let content := if isFolded then foldLines body else Text.join ['\n'] body
  let ending :=
    match chomping with
    | .strip => []
    | .clip => if body = [] then [] else ['\n']
    | .keep => List.replicate (lines.length - body.length + if body = [] then 0 else 1) '\n'
  return (content ++ ending, ⟨0, rest⟩)

end LineSearch.Data.Yaml
