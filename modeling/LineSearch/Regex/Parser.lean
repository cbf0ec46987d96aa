/-
# Reading regular expressions

The grammar is read from left to right with a stack of open groups.  Flags hold from where they
are set to the end of their group, and are resolved on the way: the expression that comes out
speaks of sets of characters and places only.

`Expr.parse?` reads a whole pattern.  It refuses a pattern that is no expression, one whose groups
and repetitions are nested more than `nestingLimit` deep, and one that has more than `sizeLimit`
steps when its repetitions are written out.  The last limit is this reader's own: a set is one step,
however many characters are in it, so that an engine that counts the bytes of what it compiles
refuses other patterns.
-/
import LineSearch.Regex.Basic
import LineSearch.Regex.PropertyName
import LineSearch.Text.Digit

namespace LineSearch.Regex

/-- What the letters of `(?...)` switch. -/
structure Flags where
  /-- `i`: upper and lower case are the same. -/
  ignoreCase : Bool := false
  /-- `m`: `^` and `$` hold at every line of the text. -/
  multiLine : Bool := false
  /-- `s`: the dot matches a newline too. -/
  dotAll : Bool := false
  /-- `U`: repetitions are lazy, and greedy with a question mark. -/
  swapGreed : Bool := false
  /-- `R`: a carriage return ends a line too. -/
  crlf : Bool := false
  /-- `u`: sets speak of all characters, not of ASCII alone. -/
  unicode : Bool := true
  /-- `x`: blanks and comments are passed over. -/
  verbose : Bool := false
  deriving DecidableEq, Repr

namespace Parser

/-- How deeply groups, repetitions and sets may be nested. -/
def nestingLimit : Nat := 250

/-- How many steps an expression may have when its repetitions are written out; a set of characters
is one step. -/
def sizeLimit : Nat := 327680

/-! ## Blanks -/

/-- Passes over white space and over comments, which reach from a number sign to the end of the
line. -/
def skipBlanks : (inComment : Bool) → Text → Text
  | _, [] => []
  | true, c :: rest => skipBlanks (c != '\n') rest
  | false, c :: rest =>
    if Text.isWhitespace c then skipBlanks false rest
    else if c == '#' then skipBlanks true rest
    else c :: rest

/-- Passes over blanks if they mean nothing. -/
def skip (verbose : Bool) (t : Text) : Text := if verbose then skipBlanks false t else t

/-- Passes over one character, and over the blanks after it if they mean nothing. -/
def advance (verbose : Bool) (t : Text) : Text := skip verbose t.tail

/-- The character after the first one; of blanks that mean nothing, and of one number sign among
them, it is the first character after. -/
def peekSecond (verbose : Bool) (t : Text) : Option Char :=
  if verbose then
    match t.tail.dropWhile Text.isWhitespace with
    | '#' :: rest => (rest.dropWhile Text.isWhitespace).head?
    | rest => rest.head?
  else t.tail.head?

/-! ## Numbers -/

/-- Reads `count` hexadecimal digits, the first of which comes next. -/
def hexFixed (verbose : Bool) : (count : Nat) → (value : Nat) → Text → Option (Nat × Text)
  | 0, value, t => some (value, t)
  | _ + 1, _, [] => none
  | count + 1, value, c :: rest => do
    let d ← Text.digit? 16 c
    hexFixed verbose count (16 * value + d) (skip verbose rest)

/-- Reads hexadecimal digits up to a closing brace. -/
def hexBraced (verbose : Bool) : (fuel : Nat) → (digits : List Nat) → Text →
    Option (List Nat × Text)
  | 0, _, _ => none
  | _ + 1, _, [] => none
  | fuel + 1, digits, c :: rest =>
    if c == '}' then some (digits.reverse, skip verbose rest)
    else do
      let d ← Text.digit? 16 c
      hexBraced verbose fuel (d :: digits) (skip verbose rest)

/-- A character given by its number, after the letter that announces it; the letter tells how many
digits there are unless they stand in braces.  The flag is set for two plain digits after `x`,
which may also mean a byte. -/
def hexEscape (verbose : Bool) (letter : Char) (t : Text) : Option ((Char × Bool) × Text) :=
  match t with
  | '{' :: _ => do
    let (digits, rest) ← hexBraced verbose (t.length + 1) [] (advance verbose t)
    if digits = [] then none
    else
      let c ← Text.scalar? (digits.foldl (fun n d => 16 * n + d) 0)
      return ((c, false), rest)
  | _ => do
    let count := if letter == 'x' then 2 else if letter == 'u' then 4 else 8
    let (value, rest) ← hexFixed verbose count 0 t
    let c ← Text.scalar? value
    return ((c, letter == 'x'), rest)

/-- Reads a decimal number below 2^32 with white space around it. -/
def decimal (verbose : Bool) (t : Text) : Option (Option Nat × Text) :=
  let (digits, rest) := run (t.length + 1) (t.dropWhile Text.isWhitespace)
  let rest := rest.dropWhile Text.isWhitespace
  match digits with
  | [] => some (none, rest)
  | _ =>
    let n := digits.foldl (fun n d => 10 * n + (d.toNat - '0'.toNat)) 0
    if n ≤ 0xFFFFFFFF then some (some n, rest) else none
where
  run : Nat → Text → Text × Text
    | 0, t => ([], t)
    | _ + 1, [] => ([], [])
    | fuel + 1, c :: rest =>
      if c.isDigit then
        let (digits, rest) := run fuel (skip verbose rest)
        (c :: digits, rest)
      else ([], c :: rest)

/-! ## Single items -/

/-- Something that stands for itself inside and outside of brackets. -/
inductive Primitive where
  /-- A character; `asByte` if it was written so that it may also mean a byte. -/
  | literal (c : Char) (asByte : Bool)
  | assertion (a : Assertion)
  | set (s : CharSet)

/-- Closes a set under case if case is ignored, then complements it if asked.  Without Unicode a
set must come out as ASCII alone. -/
def finishSet (f : Flags) (negated : Bool) (s : CharSet) : Option CharSet :=
  let s := if f.ignoreCase then CharSet.fold (if f.unicode then .unicode else .ascii) s else s
  let s := CharSet.complIf negated s
  if f.unicode || s.isAscii then some s else none

/-- The characters that words are made of under the flags. -/
def wordSet (f : Flags) : CharSet := if f.unicode then .word else .asciiWord

/-- The set of `\d`, `\s` or `\w`, complemented for the capital letter. -/
def perlSet (f : Flags) (letter : Char) : Option CharSet :=
  let s :=
    match letter.toLower with
    | 'd' => if f.unicode then CharSet.digit else .asciiDigit
    | 's' => if f.unicode then CharSet.space else .asciiSpace
    | _ => wordSet f
  let s := CharSet.complIf letter.isUpper s
  if f.unicode || s.isAscii then some s else none

/-- The set named after `\p` or `\P`. -/
def propertySet (f : Flags) (letter : Char) (t : Text) : Option (CharSet × Text) :=
  match t with
  | [] => none
  | '{' :: _ => do
    let (content, rest) ← braced (t.length + 1) (advance f.verbose t)
    let (negated, s) ← Property.ofBraces? content
    let s ← finish (negated != (letter == 'P')) s
    return (s, rest)
  | c :: rest => do
    if c == '\\' then none
    else
      let s ← Property.named? [c]
      let s ← finish (letter == 'P') s
      return (s, skip f.verbose rest)
where
  finish (negated : Bool) (s : CharSet) : Option CharSet :=
    if f.unicode then finishSet f negated s else none
  braced : Nat → Text → Option (Text × Text)
    | 0, _ => none
    | _ + 1, [] => none
    | fuel + 1, c :: rest =>
      if c == '}' then some ([], rest)
      else do
        let (content, rest) ← braced fuel (skip f.verbose rest)
        return (c :: content, rest)

/-- The characters that mean something in a pattern and stand for themselves after a backslash. -/
def isMeta (c : Char) : Bool :=
  ['\\', '.', '+', '*', '?', '(', ')', '|', '[', ']', '{', '}', '^', '$', '#', '&', '-',
    '~'].contains c

/-- The characters that may be written with a backslash before them: all of ASCII but letters,
digits and the angle brackets, which have or may get a meaning of their own. -/
def isEscapable (c : Char) : Bool :=
  isMeta c || (c.toNat < 0x80 && !c.isAlphanum && c != '<' && c != '>')

/-- The kind of word boundary named in braces after `\b`.  If no name can follow, nothing is
read. -/
def namedBoundary (f : Flags) (t : Text) : Option (Assertion × Text) :=
  match advance f.verbose t with
  | [] => none
  | inside@(c :: _) =>
    if !isNameChar c then some (.wordBoundary (wordSet f), t)
    else
      let (name, rest) := run (inside.length + 1) inside
      match rest with
      | '}' :: rest =>
        match String.ofList name with
        | "start" => some (.wordStart (wordSet f), rest)
        | "end" => some (.wordEnd (wordSet f), rest)
        | "start-half" => some (.noWordBefore (wordSet f), rest)
        | "end-half" => some (.noWordAfter (wordSet f), rest)
        | _ => none
      | _ => none
where
  isNameChar (c : Char) : Bool := c.isAlpha || c == '-'
  run : Nat → Text → Text × Text
    | 0, t => ([], t)
    | _ + 1, [] => ([], [])
    | fuel + 1, c :: rest =>
      if isNameChar c then
        let (name, rest) := run fuel (skip f.verbose rest)
        (c :: name, rest)
      else ([], c :: rest)

/-- Reads what follows a backslash. -/
def escape (f : Flags) : Text → Option (Primitive × Text)
  | [] => none
  | c :: rest =>
    let plain (c : Char) : Option (Primitive × Text) := some (.literal c false, rest)
    match c with
    | 'x' | 'u' | 'U' => do
      let ((c, asByte), rest) ← hexEscape f.verbose c (skip f.verbose rest)
      return (.literal c asByte, rest)
    | 'p' | 'P' => do
      let (s, rest) ← propertySet f c (skip f.verbose rest)
      return (.set s, rest)
    | 'd' | 's' | 'w' | 'D' | 'S' | 'W' => do
      let s ← perlSet f c
      return (.set s, rest)
    | 'a' => plain '\x07'
    | 'f' => plain '\x0c'
    | 't' => plain '\t'
    | 'n' => plain '\n'
    | 'r' => plain '\r'
    | 'v' => plain '\x0b'
    | 'A' => some (.assertion .textStart, rest)
    | 'z' => some (.assertion .textEnd, rest)
    | 'b' =>
      match rest with
      | '{' :: _ => do
        let (a, rest) ← namedBoundary f rest
        return (.assertion a, rest)
      | _ => some (.assertion (.wordBoundary (wordSet f)), rest)
    | 'B' => some (.assertion (.notWordBoundary (wordSet f)), rest)
    | '<' => some (.assertion (.wordStart (wordSet f)), rest)
    | '>' => some (.assertion (.wordEnd (wordSet f)), rest)
    | _ => if isEscapable c then plain c else none

/-- The character that a literal stands for.  Without Unicode a byte above ASCII is no
character. -/
def literalChar (f : Flags) (c : Char) (asByte : Bool) : Option Char :=
  if !f.unicode && asByte && c.toNat > 0x7F then none else some c

/-- The expression that a primitive stands for. -/
def Primitive.expr (f : Flags) : Primitive → Option Expr
  | .literal c asByte => do
    let c ← literalChar f c asByte
    let s := CharSet.singleton c
    let folding := if f.unicode then .unicode else .ascii
    return .chars (if f.ignoreCase then CharSet.fold folding s else s)
  | .assertion a => some (.assertion a)
  | .set s => some (.chars s)

/-! ## Sets in brackets -/

/-- The operations between two parts of a set. -/
inductive SetOp where
  | inter
  | diff
  | symmDiff

/-- Applies an operation; both sides are closed under case first if case is ignored. -/
def SetOp.apply (f : Flags) (op : SetOp) (s t : CharSet) : CharSet :=
  let close (s : CharSet) :=
    if f.ignoreCase then CharSet.fold (if f.unicode then .unicode else .ascii) s else s
  match op with
  | inter => .inter (close s) (close t)
  | diff => .diff (close s) (close t)
  | symmDiff => .symmDiff (close s) (close t)

/-- An open bracket: what the set around it holds so far, the operation that waits there, and
whether the bracket begins with a caret. -/
structure OpenSet where
  around : CharSet
  waiting : Option (CharSet × SetOp)
  negated : Bool

/-- The part of a set that ends here: the waiting operation applied to it. -/
def settle (f : Flags) (waiting : Option (CharSet × SetOp)) (s : CharSet) : CharSet :=
  match waiting with
  | none => s
  | some (left, op) => op.apply f left s

/-- The character of a set's literal.  Without Unicode only ASCII fits. -/
def setChar (f : Flags) : Primitive → Option Char
  | .literal c asByte =>
    (literalChar f c asByte).filter fun c => f.unicode || c.toNat < 0x80
  | _ => none

/-- The set that a single item of a bracket stands for. -/
def setItem (f : Flags) : Primitive → Option CharSet
  | .set s => some s
  | p => (setChar f p).map CharSet.singleton

/-- Reads a character or an escape inside a bracket. -/
def setPrimitive (f : Flags) : Text → Option (Primitive × Text)
  | [] => none
  | '\\' :: rest => escape f rest
  | c :: rest => some (.literal c false, rest)

/-- Reads an item of a bracket, or two with a hyphen between them. -/
def setRange (f : Flags) (t : Text) : Option (CharSet × Text) := do
  let (first, rest) ← setPrimitive f t
  let rest := skip f.verbose rest
  match rest with
  | [] => none
  | '-' :: _ =>
    let second := peekSecond f.verbose rest
    if second == some ']' || second == some '-' then return (← setItem f first, rest)
    else
      let (last, rest) ← setPrimitive f (advance f.verbose rest)
      let lo ← setChar f first
      let hi ← setChar f last
      if lo ≤ hi then return (.range lo hi, rest) else none
  | _ => return (← setItem f first, rest)

/-- A named ASCII set, as in `[:alpha:]`, if one stands here. -/
def asciiSet? (t : Text) : Option (Bool × CharSet × Text) :=
  match t with
  | '[' :: ':' :: rest =>
    let (negated, rest) := match rest with
      | '^' :: rest => (true, rest)
      | _ => (false, rest)
    match rest.dropWhile (· != ':') with
    | ':' :: ']' :: after =>
      (CharSet.named? (String.ofList (rest.takeWhile (· != ':')))).map fun s => (negated, s, after)
    | _ => none
  | _ => none

/-- Reads the beginning of a bracket: a caret, hyphens, and a closing bracket that comes first, all
of which stand for themselves.  Gives whether there was a caret and the set so far. -/
def openSet (f : Flags) (t : Text) : Option (Bool × CharSet × Text) :=
  let t := advance f.verbose t
  let (negated, t) := match t with
    | '^' :: _ => (true, advance f.verbose t)
    | _ => (false, t)
  let (hyphens, t) := run (t.length + 1) t
  match t with
  | [] => none
  | ']' :: _ =>
    if hyphens then some (negated, .singleton '-', t)
    else
      match advance f.verbose t with
      | [] => none
      | t => some (negated, .singleton ']', t)
  | _ => some (negated, if hyphens then .singleton '-' else .empty, t)
where
  run : Nat → Text → Bool × Text
    | 0, t => (false, t)
    | fuel + 1, t =>
      match t with
      | '-' :: _ => (true, (run fuel (advance f.verbose t)).2)
      | _ => (false, t)

/-- Reads the rest of a bracket: the set so far, the operation that waits, whether the bracket
begins with a caret, and the brackets around it.  The deepest nesting met is counted. -/
def setBody (f : Flags) : (fuel : Nat) → (stack : List OpenSet) → (s : CharSet) →
    (waiting : Option (CharSet × SetOp)) → (negated : Bool) → (depth : Nat) → Text →
    Option (CharSet × Nat × Text)
  | 0, _, _, _, _, _, _ => none
  | fuel + 1, stack, s, waiting, negated, depth, t =>
    let t := skip f.verbose t
    match t with
    | [] => none
    | '[' :: _ =>
      match asciiSet? t with
      | some (inverse, named, rest) => do
        let named ← finishSet f inverse named
        setBody f fuel stack (.union s named) waiting negated depth rest
      | none => do
        let (inverse, inner, rest) ← openSet f t
        setBody f fuel (⟨s, waiting, negated⟩ :: stack) inner none inverse
          (max depth (stack.length + 2)) rest
    | ']' :: rest => do
      let done ← finishSet f negated (settle f waiting s)
      match stack with
      | [] => return (done, depth, rest)
      | outer :: stack =>
        setBody f fuel stack (.union outer.around done) outer.waiting outer.negated depth rest
    | '&' :: '&' :: rest =>
      setBody f fuel stack .empty (some (settle f waiting s, .inter)) negated depth rest
    | '-' :: '-' :: rest =>
      setBody f fuel stack .empty (some (settle f waiting s, .diff)) negated depth rest
    | '~' :: '~' :: rest =>
      setBody f fuel stack .empty (some (settle f waiting s, .symmDiff)) negated depth rest
    | _ => do
      let (item, rest) ← setRange f t
      setBody f fuel stack (.union s item) waiting negated depth rest

/-- Reads a set in brackets; the opening bracket comes next. -/
def bracketed (f : Flags) (t : Text) : Option (CharSet × Nat × Text) := do
  let (negated, s, rest) ← openSet f t
  setBody f (t.length + 1) [] s none negated 1 rest

/-! ## Groups -/

/-- Whether a character may stand in the name of a group; the first one must be a letter or a low
line. -/
def isGroupNameChar (first : Bool) (c : Char) : Bool :=
  c == '_' || if first then Text.isAlphabetic c
    else c == '.' || c == '[' || c == ']' || Text.isAlphanumeric c

/-- Reads the name of a group and the closing angle bracket. -/
def groupName (t : Text) : Option (Text × Text) :=
  let name := t.takeWhile (· != '>')
  match t.dropWhile (· != '>'), name with
  | '>' :: rest, c :: more =>
    if isGroupNameChar true c && more.all (isGroupNameChar false) then some (name, rest) else none
  | _, _ => none

/-- Switches the flag of a letter. -/
def Flags.switch (f : Flags) (letter : Char) (on : Bool) : Option Flags :=
  match letter with
  | 'i' => some { f with ignoreCase := on }
  | 'm' => some { f with multiLine := on }
  | 's' => some { f with dotAll := on }
  | 'U' => some { f with swapGreed := on }
  | 'R' => some { f with crlf := on }
  | 'u' => some { f with unicode := on }
  | 'x' => some { f with verbose := on }
  | _ => none

/-- Reads the letters of a flag group up to a colon or a closing parenthesis, which is left.  A
letter may occur once, and so may the hyphen after which letters switch off; a letter has to follow
it. -/
def flagLetters : (f : Flags) → (seen : List Char) → (on : Bool) → Text →
    Option (Flags × List Char × Text)
  | _, _, _, [] => none
  | f, seen, on, c :: rest =>
    if c == ':' || c == ')' then
      if seen.head? == some '-' then none else some (f, seen, c :: rest)
    else if seen.contains c then none
    else if c == '-' then flagLetters f ('-' :: seen) false rest
    else do
      let f ← Flags.switch f c on
      flagLetters f (c :: seen) on rest

/-- What an opening parenthesis begins. -/
inductive Opening where
  /-- Flags for the rest of the group. -/
  | flags (f : Flags)
  /-- A group with the flags that hold in it, and its name. -/
  | group (f : Flags) (name : Option Text)

/-- Reads what follows an opening parenthesis.  Groups that look around are refused. -/
def opening (f : Flags) (t : Text) : Option (Opening × Text) :=
  match skip f.verbose t with
  | '?' :: 'P' :: '<' :: rest => do
    let (name, rest) ← groupName rest
    return (.group f (some name), rest)
  | '?' :: '<' :: rest => do
    let (name, rest) ← groupName rest
    return (.group f (some name), rest)
  | '?' :: rest => do
    let (inner, seen, rest) ← flagLetters f [] true rest
    match rest with
    | ')' :: rest => if seen = [] then none else return (.flags inner, rest)
    | _ :: rest => return (.group inner none, rest)
    | [] => none
  | t => some (.group f none, t)

/-! ## Expressions -/

/-- An expression with the depth to which it is nested. -/
structure Nested where
  expr : Expr
  depth : Nat

/-- One item of a sequence: an expression, or a place where flags were set. -/
inductive Item where
  | nested (n : Nested)
  | flags

/-- The sequence of some items. -/
def Nested.ofItems (items : List Item) : Nested :=
  let parts := items.filterMap fun
    | .nested n => some n
    | .flags => none
  let inner := (parts.map Nested.depth).foldl max 0
  ⟨.seqAll (parts.map Nested.expr), if items.length > 1 then inner + 1 else inner⟩

/-- The alternatives of a group. -/
def Nested.ofBranches (branches : List Nested) : Nested :=
  let inner := (branches.map Nested.depth).foldl max 0
  ⟨.altAll (branches.map Nested.expr), if branches.length > 1 then inner + 1 else inner⟩

/-- A group that is not closed yet: the branches and the items before it, both from last to first,
and the flags to go back to. -/
structure OpenGroup where
  branches : List Nested
  items : List Item
  flags : Flags

/-- The state of the reader: the groups around, and of the innermost one the branches, the items
of the last branch, and the flags; all lists from last to first.  `names` are the names of groups
that are taken. -/
structure State where
  groups : List OpenGroup := []
  branches : List Nested := []
  items : List Item := []
  flags : Flags
  names : List Text := []

/-- The group that ends here. -/
def State.content (s : State) : Nested :=
  Nested.ofBranches ((Nested.ofItems s.items.reverse :: s.branches).reverse)

/-- Adds an expression to the sequence. -/
def State.push (s : State) (n : Nested) : State := { s with items := .nested n :: s.items }

/-- Opens a group; a name must be new. -/
def State.open? (s : State) (f : Flags) (name : Option Text) : Option State :=
  let inside : State := ⟨⟨s.branches, s.items, s.flags⟩ :: s.groups, [], [], f, s.names⟩
  match name with
  | none => some inside
  | some n => if s.names.contains n then none else some { inside with names := n :: s.names }

/-- Closes the innermost group. -/
def State.close? (s : State) : Option State :=
  match s.groups with
  | [] => none
  | g :: groups =>
    let n := s.content
    some ⟨groups, g.branches, .nested ⟨n.expr, n.depth + 1⟩ :: g.items, g.flags, s.names⟩

/-- Repeats the last item of the sequence; there must be one, and it must be an expression. -/
def State.repeat? (s : State) (least : Nat) (most : Option Nat) (isLazy : Bool) : Option State :=
  match s.items with
  | .nested n :: items =>
    let again := Expr.rounds n.expr least most (isLazy == s.flags.swapGreed)
    some { s with items := .nested ⟨again, n.depth + 1⟩ :: items }
  | _ => none

/-- The question mark that makes a repetition lazy. -/
def lazyMark : Text → Bool × Text
  | '?' :: rest => (true, rest)
  | t => (false, t)

/-- Reads the counts of a repetition after its opening brace. -/
def counts (verbose : Bool) (t : Text) : Option ((Nat × Option Nat) × Text) := do
  let (first, rest) ← decimal verbose t
  let ((least, most), rest) ←
    (match rest with
    | ',' :: _ =>
      match advance verbose rest with
      | '}' :: rest => first.map fun n => ((n, none), '}' :: rest)
      | rest => do
        let least ← first
        let (second, rest) ← decimal verbose rest
        let most ← second
        return ((least, some most), rest)
    | _ => first.map fun n => ((n, some n), rest))
  match rest with
  | '}' :: _ => if most.all (least ≤ ·) then return ((least, most), advance verbose rest) else none
  | _ => none

/-- The dot under the flags.  Without Unicode it could match a part of a character. -/
def dot (f : Flags) : Option Expr :=
  if !f.unicode then none
  else if f.dotAll then some (.chars .all)
  else if f.crlf then some (.chars (.compl (.ofRanges [('\n', '\n'), ('\r', '\r')])))
  else some (.chars (.compl (.singleton '\n')))

/-- The caret under the flags. -/
def caret (f : Flags) : Assertion :=
  if f.multiLine then if f.crlf then .lineStartCrlf else .lineStart else .textStart

/-- The dollar sign under the flags. -/
def dollar (f : Flags) : Assertion :=
  if f.multiLine then if f.crlf then .lineEndCrlf else .lineEnd else .textEnd

/-- Reads one item, a bar or a parenthesis; `c` is the first character and `rest` what follows. -/
def step (s : State) (c : Char) (rest : Text) : Option (State × Text) :=
  let f := s.flags
  let uncounted (least : Nat) (most : Option Nat) : Option (State × Text) := do
    let (isLazy, rest) := lazyMark rest
    return (← s.repeat? least most isLazy, rest)
  match c with
  | '(' => do
    let (o, rest) ← opening f rest
    match o with
    | .flags f => return ({ s with items := .flags :: s.items, flags := f }, rest)
    | .group inner name => return (← s.open? inner name, rest)
  | ')' => do return (← s.close?, rest)
  | '|' =>
    let branch := Nested.ofItems s.items.reverse
    some ({ s with items := [], branches := branch :: s.branches }, rest)
  | '[' => do
    let (set, depth, rest) ← bracketed f (c :: rest)
    return (s.push ⟨.chars set, depth⟩, rest)
  | '?' => uncounted 0 (some 1)
  | '*' => uncounted 0 none
  | '+' => uncounted 1 none
  | '{' => do
    let ((least, most), rest) ← counts f.verbose (skip f.verbose rest)
    let (isLazy, rest) := lazyMark rest
    return (← s.repeat? least most isLazy, rest)
  | '.' => do return (s.push ⟨← dot f, 0⟩, rest)
  | '^' => some (s.push ⟨.assertion (caret f), 0⟩, rest)
  | '$' => some (s.push ⟨.assertion (dollar f), 0⟩, rest)
  | '\\' => do
    let (p, rest) ← escape f rest
    return (s.push ⟨← p.expr f, 0⟩, rest)
  | c => do return (s.push ⟨← (Primitive.literal c false).expr f, 0⟩, rest)

/-- Reads items until the pattern ends; every item takes at least one character. -/
def run : (fuel : Nat) → State → Text → Option Nested
  | 0, _, _ => none
  | fuel + 1, s, t =>
    match skip s.flags.verbose t with
    | [] => if s.groups.isEmpty then some s.content else none
    | c :: rest => do
      let (s, rest) ← step s c rest
      run fuel s rest

end Parser

/-- The expression that a pattern stands for, read under the given flags; `none` if it is no
expression or exceeds a limit. -/
def Expr.parse? (flags : Flags) (pattern : Text) : Option Expr := do
  let n ← Parser.run (pattern.length + 1) { flags } pattern
  if n.depth ≤ Parser.nestingLimit && n.expr.size ≤ Parser.sizeLimit then some n.expr else none

end LineSearch.Regex
