/-
# Reading TOML

A TOML file is a list of statements, one a line: an assignment to a key, or the header of a table,
to which the assignments below it belong.  `Toml.statements?` reads the statements one by one, and
`Toml.Node.obey?` carries one out.  What has been written once cannot be written again: a value, a
table with a header, and a table that came into being by a key with points in it.

`Toml.parse?` reads a whole file.  Dates and times become texts in one way of writing them.
-/
import LineSearch.Data.Json

namespace LineSearch.Data.Toml

/-! ## Blanks and comments -/

/-- Whether a character is a blank within a line. -/
def isBlank (c : Char) : Bool := c == ' ' || c == '\t'

/-- Passes over the blanks within a line. -/
def skip (t : Text) : Text := t.dropWhile isBlank

/-- Whether a character may stand in comments and in texts. -/
def isPlain (c : Char) : Bool := c == '\t' || (0x20 ≤ c.toNat && c.toNat != 0x7F)

/-- What follows the end of a line, if that comes next. -/
def newline? : Text → Option Text
  | '\n' :: rest => some rest
  | '\r' :: '\n' :: rest => some rest
  | _ => none

/-- Passes over a comment, if one comes next. -/
def skipComment (t : Text) : Text :=
  match t with
  | '#' :: rest => rest.dropWhile isPlain
  | t => t

/-- Passes over blanks, comments and ends of lines. -/
def skipLines : (fuel : Nat) → Text → Text
  | 0, t => t
  | fuel + 1, t =>
    let t := skipComment (skip t)
    match newline? t with
    | some rest => skipLines fuel rest
    | none => t

/-- Passes over all blanks, comments and ends of lines that come next. -/
def skipAll (t : Text) : Text := skipLines (t.length + 1) t

/-- What follows the rest of a line, which has nothing but blanks and a comment. -/
def endLine? (t : Text) : Option Text :=
  match skipComment (skip t) with
  | [] => some []
  | t => newline? t

/-! ## Texts -/

/-- What stands behind a backslash. -/
def escape? : Text → Option (Char × Text)
  | '"' :: rest => some ('"', rest)
  | '\\' :: rest => some ('\\', rest)
  | 'b' :: rest => some ('\x08', rest)
  | 'e' :: rest => some ('\x1b', rest)
  | 'f' :: rest => some ('\x0c', rest)
  | 'n' :: rest => some ('\n', rest)
  | 'r' :: rest => some ('\r', rest)
  | 't' :: rest => some ('\t', rest)
  | 'x' :: rest => Text.hexScalar? 2 rest
  | 'u' :: rest => Text.hexScalar? 4 rest
  | 'U' :: rest => Text.hexScalar? 8 rest
  | _ => none

/-- The text up to the closing quote, and what follows it. -/
def basic? : (fuel : Nat) → Text → Option (Text × Text)
  | 0, _ => none
  | _ + 1, [] => none
  | _ + 1, '"' :: rest => some ([], rest)
  | fuel + 1, '\\' :: rest => do
    let (c, rest) ← escape? rest
    let (t, rest) ← basic? fuel rest
    return (c :: t, rest)
  | fuel + 1, c :: rest => do
    if !isPlain c then none
    let (t, rest) ← basic? fuel rest
    return (c :: t, rest)

/-- The text up to the closing apostrophe, and what follows it. -/
def literal? (t : Text) : Option (Text × Text) :=
  let body := t.takeWhile fun c => c != '\'' && isPlain c
  match t.drop body.length with
  | '\'' :: rest => some (body, rest)
  | _ => none

/-- A text of several lines up to three closing quotes, in front of which one or two more may
stand.  In a text with escapes a backslash at the end of a line joins it with what comes next. -/
def lines? (quote : Char) (escapes : Bool) : (fuel : Nat) → Text → Option (Text × Text)
  | 0, _ => none
  | _ + 1, [] => none
  | fuel + 1, c :: rest =>
    if c == quote then
      let quotes := (c :: rest).takeWhile (· == quote)
      let rest := (c :: rest).dropWhile (· == quote)
      if quotes.length < 3 then prepend quotes (lines? quote escapes fuel rest)
      else if quotes.length ≤ 5 then some (quotes.drop 3, rest)
      else none
    else if escapes && c == '\\' then
      match newline? (skip rest) with
      | some rest =>
        lines? quote escapes fuel (rest.dropWhile fun c => isBlank c || c == '\n' || c == '\r')
      | none => do
        let (c, rest) ← escape? rest
        prepend [c] (lines? quote escapes fuel rest)
    else if isPlain c then prepend [c] (lines? quote escapes fuel rest)
    else
      match newline? (c :: rest) with
      | some after =>
        let ending := (c :: rest).take (rest.length + 1 - after.length)
        prepend ending (lines? quote escapes fuel after)
      | none => none
where
  prepend (t : Text) (r : Option (Text × Text)) : Option (Text × Text) :=
    r.map fun (u, rest) => (t ++ u, rest)

/-- A text of several lines; the end of the line that it begins in is not part of it. -/
def multiline? (quote : Char) (escapes : Bool) (t : Text) : Option (Text × Text) :=
  let t := (newline? t).getD t
  lines? quote escapes (t.length + 1) t

/-! ## Keys -/

/-- Whether a character may stand in a key without quotes. -/
def isKeyChar (c : Char) : Bool := c.isAlphanum || c == '_' || c == '-'

/-- One part of a key. -/
def simpleKey? : Text → Option (Text × Text)
  | '"' :: rest => basic? (rest.length + 1) rest
  | '\'' :: rest => literal? rest
  | t =>
    let k := t.takeWhile isKeyChar
    if k = [] then none else some (k, t.drop k.length)

/-- A key: parts with points between them. -/
def key? : (fuel : Nat) → Text → Option (List Text × Text)
  | 0, _ => none
  | fuel + 1, t => do
    let (k, rest) ← simpleKey? (skip t)
    match skip rest with
    | '.' :: rest =>
      let (ks, rest) ← key? fuel rest
      return (k :: ks, rest)
    | rest => return ([k], rest)

/-! ## Numbers, dates and times -/

/-- The digits of a number, between two of which an underscore may stand. -/
def digits? (base : Nat) : Text → Option (List Nat)
  | [] => none
  | [c] => (Text.digit? base c).map ([·])
  | c :: '_' :: rest => do return (← Text.digit? base c) :: (← digits? base rest)
  | c :: rest => do return (← Text.digit? base c) :: (← digits? base rest)

/-- The digits of a number in decimal, which does not begin with a superfluous zero. -/
def whole? (t : Text) : Option (List Nat) :=
  (digits? 10 t).filter fun ds => !(ds.head? == some 0 && 1 < ds.length)

/-- Cuts off a sign. -/
def sign (t : Text) : Option Char × Text :=
  match t with
  | '+' :: rest => (some '+', rest)
  | '-' :: rest => (some '-', rest)
  | t => (none, t)

/-- A whole number within 64 bits. -/
def integer? (t : Text) : Option Value :=
  let (s, t) := sign t
  let magnitude : Option Nat :=
    match s, t with
    | none, '0' :: 'x' :: rest => (digits? 16 rest).map (Text.ofDigits 16)
    | none, '0' :: 'o' :: rest => (digits? 8 rest).map (Text.ofDigits 8)
    | none, '0' :: 'b' :: rest => (digits? 2 rest).map (Text.ofDigits 2)
    | _, t => (whole? t).map (Text.ofDigits 10)
  (magnitude.map fun (n : Nat) => if s == some '-' then -(n : Int) else (n : Int)).bind fun n =>
    if isInt64 n then some (.integer n) else none

/-- A number with a point or an exponent, or the name of one that has no digits.  A number that is
too large is refused. -/
def float? (t : Text) : Option Value := do
  let (s, t) := sign t
  let negative := s == some '-'
  match String.ofList t with
  | "inf" => return .float (.infinite negative)
  | "nan" => return .float .notANumber
  | _ =>
    if t.all fun c => c != '.' && c != 'e' && c != 'E' then none
    let mantissa := t.takeWhile fun c => c != 'e' && c != 'E'
    let exponent ← match t.drop mantissa.length with
      | [] => some (0 : Int)
      | _ :: e =>
        let (s, e) := sign e
        (digits? 10 e).map fun ds =>
          if s == some '-' then -(Text.ofDigits 10 ds : Int) else (Text.ofDigits 10 ds : Int)
    let whole := mantissa.takeWhile (· != '.')
    let wholeDigits ← whole? whole
    let fraction ← match mantissa.drop whole.length with
      | [] => some []
      | _ :: f => digits? 10 f
    match Binary64.ofDecimal negative (Text.ofDigits 10 (wholeDigits ++ fraction))
        (exponent - fraction.length) with
    | .infinite _ => none
    | x => return .float x

/-- A number of exactly so many digits in front of a text. -/
def fixed? (count : Nat) (t : Text) : Option (Nat × Text) :=
  if t.length < count then none
  else (Text.number? 10 (t.take count)).map fun n => (n, t.drop count)

/-- The number of days of a month. -/
def daysOf (year month : Nat) : Nat :=
  if month == 2 then if year % 4 == 0 && (year % 100 != 0 || year % 400 == 0) then 29 else 28
  else if month == 4 || month == 6 || month == 9 || month == 11 then 30
  else 31

/-- A date, which is written in one way only. -/
def date? (t : Text) : Option (Text × Text) := do
  let (year, rest) ← fixed? 4 t
  match rest with
  | '-' :: rest =>
    let (month, rest) ← fixed? 2 rest
    match rest with
    | '-' :: rest =>
      let (day, rest) ← fixed? 2 rest
      if 1 ≤ month && month ≤ 12 && 1 ≤ day && day ≤ daysOf year month then
        return (t.take 10, rest)
      else none
    | _ => none
  | _ => none

/-- A fraction of a second to the nanosecond, without zeros at its end but with one digit at
least. -/
def fractionText (ds : Text) : Text :=
  let kept := ((ds.take 9).reverse.dropWhile (· == '0')).reverse
  '.' :: if kept = [] then ['0'] else kept

/-- A time of day, with or without seconds. -/
def time? (t : Text) : Option (Text × Text) := do
  let (hour, rest) ← fixed? 2 t
  match rest with
  | ':' :: rest =>
    let (minute, rest) ← fixed? 2 rest
    if 23 < hour || 59 < minute then none
    match rest with
    | ':' :: rest =>
      let (second, rest) ← fixed? 2 rest
      if 60 < second then none
      match rest with
      | '.' :: rest =>
        let ds := rest.takeWhile Char.isDigit
        if ds = [] then none else return (t.take 8 ++ fractionText ds, rest.drop ds.length)
      | rest => return (t.take 8, rest)
    | rest => return (t.take 5, rest)
  | _ => none

/-- How far a time is from the time of reference; the end of the text comes after it. -/
def offset? (t : Text) : Option Text :=
  match t with
  | [] => some []
  | ['Z'] | ['z'] => some ['Z']
  | s :: rest => do
    if s != '+' && s != '-' then none
    let (hour, rest) ← fixed? 2 rest
    match rest with
    | ':' :: rest =>
      let (minute, rest) ← fixed? 2 rest
      if rest != [] || 23 < hour || 59 < minute then none
      return (if hour = 0 && minute = 0 then '+' else s) :: t.tail
    | _ => none

/-- A date, a time, or both. -/
def moment? (t : Text) : Option Value :=
  match date? t with
  | some (date, []) => some (.text date)
  | some (date, c :: rest) => do
    if c != 'T' && c != 't' && c != ' ' then none
    let (time, rest) ← time? rest
    let offset ← offset? rest
    return .text (date ++ 'T' :: time ++ offset)
  | none =>
    match time? t with
    | some (time, []) => some (.text time)
    | _ => none

/-- A value without brackets and quotes. -/
def word? (t : Text) : Option Value :=
  match String.ofList t with
  | "true" => some (.bool true)
  | "false" => some (.bool false)
  | _ => (moment? t).or ((integer? t).or (float? t))

/-- Whether a character may stand in a value without brackets and quotes. -/
def isWordChar (c : Char) : Bool :=
  c.isAlphanum || c == '_' || c == '-' || c == '+' || c == '.' || c == ':'

/-- Cuts such a value off; between a date and a time a blank may stand. -/
def cutWord (t : Text) : Text × Text :=
  let word := t.takeWhile isWordChar
  let rest := t.drop word.length
  match date? word, rest with
  | some (_, []), ' ' :: c :: rest =>
    if c.isDigit then
      let time := (c :: rest).takeWhile isWordChar
      (word ++ ' ' :: time, (c :: rest).drop time.length)
    else (word, ' ' :: c :: rest)
  | _, rest => (word, rest)

/-! ## Tables that are being written -/

/-- How a table came into being. -/
inductive Origin where
  /-- A header named a table within it. -/
  | implied
  /-- By a key with points in it. -/
  | dotted
  /-- By a header of its own. -/
  | header
  deriving DecidableEq

/-- A value, or a table that may still be added to. -/
inductive Node where
  | value (v : Value)
  | table (origin : Origin) (entries : List (Text × Node))
  /-- Tables with the same header, the last of them first. -/
  | tables (last : List (Text × Node)) (before : List Value)

mutual

/-- The value that a node has in the end. -/
def Node.toValue : Node → Value
  | .value v => v
  | .table _ es => .table (entryValues es)
  | .tables last before => .list (before.reverse ++ [.table (entryValues last)])

/-- The values that the entries of a table have in the end. -/
def entryValues : List (Text × Node) → List (Text × Value)
  | [] => []
  | (name, n) :: rest => (name, n.toValue) :: entryValues rest

end

/-- The entries of a table. -/
abbrev Entries := List (Text × Node)

/-- Assigns a value to a key of a table.  The tables within which the key names it have to be new,
or must have come into being in the same way. -/
def assign? : (keys : List Text) → Value → Entries → Option Entries
  | [], _, _ => none
  | [k], v, es => if (lookup es k).isSome then none else some (es ++ [(k, .value v)])
  | k :: keys, v, es =>
    match lookup es k with
    | none => do return es ++ [(k, .table .dotted (← assign? keys v []))]
    | some (.table origin inner) => do
      if origin = .header || (origin = .implied && keys.length = 1) then none
      return assign k (.table origin (← assign? keys v inner)) es
    | some (.tables last before) => do
      if keys.length = 1 then none
      return assign k (.tables (← assign? keys v last) before) es
    | some (.value _) => none

/-- Changes the table at a path; tables on the way come into being, and of tables with the same
header the last one counts. -/
def within? (change : Entries → Option Entries) : (path : List Text) → Entries → Option Entries
  | [], es => change es
  | k :: path, es =>
    match lookup es k with
    | none => do return es ++ [(k, .table .implied (← within? change path []))]
    | some (.table origin inner) => do
      return assign k (.table origin (← within? change path inner)) es
    | some (.tables last before) => do
      return assign k (.tables (← within? change path last) before) es
    | some (.value _) => none

/-- Opens a table with a header of its own. -/
def openTable? (k : Text) (es : Entries) : Option Entries :=
  match lookup es k with
  | none => some (es ++ [(k, .table .header [])])
  | some (.table .implied inner) => some (assign k (.table .header inner) es)
  | some _ => none

/-- Opens one more of the tables with the same header. -/
def openNext? (k : Text) (es : Entries) : Option Entries :=
  match lookup es k with
  | none => some (es ++ [(k, .tables [] [])])
  | some (.tables last before) =>
    some (assign k (.tables [] (.table (entryValues last) :: before)) es)
  | some _ => none

/-! ## Values -/

mutual

/-- Reads the value in front of a text. -/
def value? : (fuel : Nat) → Text → Option (Value × Text)
  | 0, _ => none
  | fuel + 1, t =>
    match t with
    | '"' :: '"' :: '"' :: rest => (multiline? '"' true rest).map fun (t, rest) => (.text t, rest)
    | '\'' :: '\'' :: '\'' :: rest =>
      (multiline? '\'' false rest).map fun (t, rest) => (.text t, rest)
    | '"' :: rest => (basic? (rest.length + 1) rest).map fun (t, rest) => (.text t, rest)
    | '\'' :: rest => (literal? rest).map fun (t, rest) => (.text t, rest)
    | '[' :: rest => (items? fuel rest).map fun (vs, rest) => (.list vs, rest)
    | '\x7b' :: rest =>
      (fields? fuel [] rest).map fun (es, rest) => (.table (entryValues es), rest)
    | t =>
      let (word, rest) := cutWord t
      (word? word).map fun v => (v, rest)

/-- Reads the items of a list and the bracket that closes it. -/
def items? : (fuel : Nat) → Text → Option (List Value × Text)
  | 0, _ => none
  | fuel + 1, t =>
    match skipAll t with
    | ']' :: rest => some ([], rest)
    | t => do
      let (v, t) ← value? fuel t
      match skipAll t with
      | ',' :: rest =>
        let (vs, rest) ← items? fuel rest
        return (v :: vs, rest)
      | ']' :: rest => return ([v], rest)
      | _ => none

/-- Reads the assignments within braces, after those that were read before, and the closing
brace. -/
def fields? : (fuel : Nat) → Entries → Text → Option (Entries × Text)
  | 0, _, _ => none
  | fuel + 1, es, t =>
    match skipAll t with
    | '\x7d' :: rest => some (es, rest)
    | t => do
      let (keys, t) ← key? (t.length + 1) t
      match t with
      | '=' :: rest =>
        let (v, t) ← value? fuel (skip rest)
        let es ← assign? keys v es
        match skipAll t with
        | ',' :: rest => fields? fuel es rest
        | '\x7d' :: rest => return (es, rest)
        | _ => none
      | _ => none

end

/-! ## Statements -/

/-- What a line of the file says. -/
inductive Statement where
  | assignment (keys : List Text) (v : Value)
  /-- The assignments below belong to the table. -/
  | table (keys : List Text)
  /-- The assignments below belong to one more table of that name. -/
  | nextTable (keys : List Text)

/-- Reads the statement in front of a text. -/
def statement? (t : Text) : Option (Statement × Text) :=
  match t with
  | '[' :: '[' :: rest => do
    let (keys, rest) ← key? (rest.length + 1) rest
    match rest with
    | ']' :: ']' :: rest => return (.nextTable keys, rest)
    | _ => none
  | '[' :: rest => do
    let (keys, rest) ← key? (rest.length + 1) rest
    match rest with
    | ']' :: rest => return (.table keys, rest)
    | _ => none
  | t => do
    let (keys, t) ← key? (t.length + 1) t
    match t with
    | '=' :: rest =>
      let (v, rest) ← value? (2 * rest.length + 2) (skip rest)
      return (.assignment keys v, rest)
    | _ => none

/-- Reads all statements, each on a line of its own. -/
def statements? : (fuel : Nat) → Text → Option (List Statement)
  | 0, _ => none
  | fuel + 1, t =>
    match skipAll t with
    | [] => some []
    | t => do
      let (s, t) ← statement? t
      let t ← endLine? t
      return s :: (← statements? fuel t)

/-- The file as far as it is read: what it holds, and the table that assignments belong to. -/
structure Sheet where
  entries : Entries := []
  current : List Text := []

/-- Carries out a statement. -/
def Sheet.obey? (s : Sheet) : Statement → Option Sheet
  | .assignment keys v => do
    return { s with entries := ← within? (assign? keys v) s.current s.entries }
  | .table keys => do
    let k ← keys.getLast?
    return ⟨← within? (openTable? k) keys.dropLast s.entries, keys⟩
  | .nextTable keys => do
    let k ← keys.getLast?
    return ⟨← within? (openNext? k) keys.dropLast s.entries, keys⟩

/-- The table that a file writes.  A mark of the encoding may stand in front of it. -/
def parse? (t : Text) : Option (List (Text × Value)) := do
  let t := match t with
    | '\ufeff' :: rest => rest
    | t => t
  let statements ← statements? (t.length + 1) t
  let sheet ← statements.foldlM Sheet.obey? {}
  return entryValues sheet.entries

end LineSearch.Data.Toml
