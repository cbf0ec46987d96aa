/-
# Reading YAML

The parts of a list or a table in YAML are told by their indentation, or stand in brackets.  A file
holds one document; one that holds nothing is an empty table.  Names that stand for other parts of
the file are not known, and tags make no difference.
-/
import LineSearch.Data.Yaml.Scalar

namespace LineSearch.Data.Yaml

/-! ## Blanks and comments -/

/-- Passes over blanks, comments and ends of lines.  A tab may not indent anything; `none` if one
does. -/
def skip? : (fuel : Nat) → (inBrackets fresh : Bool) → Place → Option Place
  | 0, _, _, p => some p
  | fuel + 1, inBrackets, fresh, p =>
    let blanks := p.rest.takeWhile isBlank
    let after := p.drop blanks.length
    let isComment := after.rest.head? == some '#' && (fresh || blanks != [])
    let after := if isComment then ⟨0, after.rest.dropWhile fun c => !isBreak c⟩ else after
    match newline? after.rest with
    | some rest => skip? fuel inBrackets true ⟨0, rest⟩
    | none =>
      if after.rest != [] && fresh && !inBrackets && blanks.contains '\t' then none else some after

/-- Passes over all blanks, comments and ends of lines that come next. -/
def skipAll? (inBrackets : Bool) (p : Place) : Option Place :=
  skip? (p.rest.length + 1) inBrackets (p.column == 0) p

/-- Whether a document begins or ends here, or the file does. -/
def atEnd (p : Place) : Bool :=
  p.rest = [] || (p.column == 0 && (isMark '-' p.rest || isMark '.' p.rest))

/-- Whether there is nothing else on the line but blanks and a comment. -/
def endsLine (p : Place) : Bool :=
  let blanks := p.rest.takeWhile isBlank
  match p.rest.drop blanks.length with
  | [] => true
  | c :: _ => p.column == 0 || isBreak c || (c == '#' && blanks != [])

/-- Passes over a name that other parts of the file could use, and over a tag. -/
def skipProperties : (fuel : Nat) → Place → Place
  | 0, p => p
  | fuel + 1, p =>
    match p.rest with
    | c :: _ =>
      if c == '&' || c == '!' then
        let p := p.drop (p.rest.takeWhile fun c => !isBlank c && !isBreak c && !isBracket c).length
        skipProperties fuel (p.drop (p.rest.takeWhile isBlank).length)
      else p
    | [] => p

/-! ## Keys -/

/-- The key of an entry and the place behind its colon, if an entry begins here. -/
def key? (p : Place) : Option (Text × Place) := do
  let (name, after) ←
    match p.rest with
    | c :: rest =>
      if c == '"' || c == '\'' then do
        let (name, after) ← quoted? c (rest.length + 1) (p.drop 1)
        let raw := p.rest.take (p.rest.length - after.rest.length)
        if raw.any isBreak then none else some (some name, after)
      else if startsPlain false p.rest then
        let line := plainLine false p.rest
        some (plainName? line, p.drop line.length)
      else none
    | [] => none
  let after := after.drop (after.rest.takeWhile isBlank).length
  match after.rest with
  | ':' :: rest => do
    if !atBlank rest then none
    return (← name, after.drop 1)
  | _ => none

/-- Adds an entry to a table that has none of its name. -/
def addEntry? (es : List (Text × Value)) (name : Text) (v : Value) : Option (List (Text × Value)) :=
  if (lookup es name).isSome then none else some (es ++ [(name, v)])

/-! ## Lists and tables in brackets -/

/-- The name that a value is as a key. -/
def keyName? : Value → Option Text
  | .text t => some t
  | .integer n => some (Value.integerText n)
  | .bool b => some (toString b).toList
  | .float x => some x.text
  | .nothing | .list _ | .table _ => none

mutual

/-- Reads a value within brackets; where none is written it is nothing. -/
def flow? : (fuel : Nat) → Place → Option (Value × Place)
  | 0, _ => none
  | fuel + 1, p => do
    let p := skipProperties 2 p
    match p.rest with
    | '[' :: _ =>
      let (vs, p) ← flowItems? fuel (p.drop 1)
      return (.list vs, p)
    | '\x7b' :: _ =>
      let (es, p) ← flowEntries? fuel [] (p.drop 1)
      return (.table es, p)
    | c :: rest =>
      if c == '"' || c == '\'' then
        let (t, p) ← quoted? c (rest.length + 1) (p.drop 1)
        return (.text t, p)
      else if startsPlain true p.rest then
        let (t, p) := plain true (-1) (rest.length + 1) p
        return (← plainValue? t, p)
      else if c == ',' || c == ']' || c == '\x7d' || c == ':' then return (.nothing, p)
      else none
    | [] => none

/-- Reads the items of a list and the closing bracket. -/
def flowItems? : (fuel : Nat) → Place → Option (List Value × Place)
  | 0, _ => none
  | fuel + 1, p => do
    let p ← skipAll? true p
    match p.rest with
    | ']' :: _ => return ([], p.drop 1)
    | ',' :: _ => none
    | _ =>
      let (v, p) ← flow? fuel p
      let p ← skipAll? true p
      let (v, p) ←
        match p.rest with
        | ':' :: _ => do
          let name ← keyName? v
          let p ← skipAll? true (p.drop 1)
          let (v, p) ← flow? fuel p
          let p ← skipAll? true p
          some (Value.table [(name, v)], p)
        | _ => some (v, p)
      match p.rest with
      | ',' :: _ =>
        let (vs, p) ← flowItems? fuel (p.drop 1)
        return (v :: vs, p)
      | ']' :: _ => return ([v], p.drop 1)
      | _ => none

/-- Reads the entries of a table, after those that were read before, and the closing brace. -/
def flowEntries? : (fuel : Nat) → List (Text × Value) → Place → Option (List (Text × Value) × Place)
  | 0, _, _ => none
  | fuel + 1, es, p => do
    let p ← skipAll? true p
    match p.rest with
    | '\x7d' :: _ => return (es, p.drop 1)
    | ',' :: _ => none
    | _ =>
      let (key, p) ← flow? fuel p
      let name ← keyName? key
      let p ← skipAll? true p
      let (v, p) ←
        match p.rest with
        | ':' :: _ => do
          let p ← skipAll? true (p.drop 1)
          flow? fuel p
        | _ => some (.nothing, p)
      let es ← addEntry? es name v
      let p ← skipAll? true p
      match p.rest with
      | ',' :: _ => flowEntries? fuel es (p.drop 1)
      | '\x7d' :: _ => return (es, p.drop 1)
      | _ => none

end

/-! ## Lists and tables by indentation -/

mutual

/-- Reads the value that begins here, within one that is indented to the column `parent`. -/
def node? : (fuel : Nat) → (parent : Int) → Place → Option (Value × Place)
  | 0, _, _ => none
  | fuel + 1, parent, p =>
    match p.rest with
    | '-' :: rest => if atBlank rest then items? fuel p.column p else entriesOrScalar? fuel parent p
    | _ => entriesOrScalar? fuel parent p

/-- Reads a table if the key of an entry comes next, and else a value on this line. -/
def entriesOrScalar? : (fuel : Nat) → (parent : Int) → Place → Option (Value × Place)
  | 0, _, _ => none
  | fuel + 1, parent, p =>
    match key? p with
    | some _ => (entries? fuel p.column [] p).map fun (es, p) => (.table es, p)
    | none => inline? fuel parent p

/-- Reads a value that begins on a line with something else in front of it. -/
def inline? : (fuel : Nat) → (parent : Int) → Place → Option (Value × Place)
  | 0, _, _ => none
  | fuel + 1, parent, p => do
    let (v, p) ←
      match p.rest with
      | '|' :: rest => do
        let (t, p) ← block? false parent rest
        some (Value.text t, p)
      | '>' :: rest => do
        let (t, p) ← block? true parent rest
        some (Value.text t, p)
      | c :: rest =>
        if c == '&' || c == '!' then below? fuel parent false (skipProperties 2 p)
        else if startsPlain false p.rest then do
          let (t, p) := plain false parent (rest.length + 1) p
          let v ← plainValue? t
          some (v, p)
        else if c == '[' || c == '\x7b' || c == '"' || c == '\'' then flow? (2 * rest.length + 4) p
        else none
      | [] => some (.nothing, p)
    if endsLine p then return (v, p) else none

/-- Reads a value that begins on this line or below it; `atParent` tells whether the items of a list
may stand as far left as the value they belong to. -/
def below? : (fuel : Nat) → (parent : Int) → (atParent : Bool) → Place → Option (Value × Place)
  | 0, _, _, _ => none
  | fuel + 1, parent, atParent, p => do
    let here := p.drop (p.rest.takeWhile isBlank).length
    let p' ← skipAll? false p
    if p'.rest.length = here.rest.length && p'.rest != [] then inline? fuel parent here
    else if atEnd p' then return (.nothing, p')
    else if parent < p'.column then node? fuel parent p'
    else
      match p'.rest with
      | '-' :: rest =>
        if atParent && parent = p'.column && atBlank rest then items? fuel p'.column p'
        else return (.nothing, p')
      | _ => return (.nothing, p')

/-- Reads the items of a list, each behind a hyphen in the given column. -/
def items? : (fuel : Nat) → (column : Nat) → Place → Option (Value × Place)
  | 0, _, _ => none
  | fuel + 1, column, p => do
    let after := p.drop 1
    let here := after.drop (after.rest.takeWhile isBlank).length
    let (v, p) ←
      match here.rest with
      | c :: _ =>
        if isBreak c || c == '#' then below? fuel column false after else node? fuel column here
      | [] => some (.nothing, here)
    let p ← skipAll? false p
    if atEnd p || p.column < column then return (.list [v], p)
    else
      match p.rest with
      | '-' :: rest =>
        if p.column = column && atBlank rest then
          match ← items? fuel column p with
          | (.list vs, p) => return (.list (v :: vs), p)
          | _ => none
        else none
      | _ => if p.column = column then return (.list [v], p) else none

/-- Reads the entries of a table, whose keys begin in the given column, after those that were read
before. -/
def entries? : (fuel : Nat) → (column : Nat) → List (Text × Value) → Place →
    Option (List (Text × Value) × Place)
  | 0, _, _, _ => none
  | fuel + 1, column, es, p => do
    let (name, p) ← key? p
    let (v, p) ← below? fuel column true p
    let es ← addEntry? es name v
    let p ← skipAll? false p
    if atEnd p || p.column < column then return (es, p)
    else if p.column = column then entries? fuel column es p
    else none

end

/-! ## Documents -/

/-- Passes over the directives in front of a document, which is then marked. -/
def skipDirectives? : (fuel : Nat) → Place → Option Place
  | 0, _ => none
  | fuel + 1, p => do
    let p ← skipAll? false p
    match p.rest with
    | '%' :: rest =>
      if p.column != 0 then none
      let p ← skipDirectives? fuel (p.drop (rest.takeWhile fun c => !isBreak c).length.succ)
      if isMark '-' p.rest then some p else none
    | _ => some p

/-- The value of the document that begins here, if there is one. -/
def document? (p : Place) : Option (Option Value) := do
  let p ← skipDirectives? (p.rest.length + 1) p
  if p.rest = [] then return none
  let fuel := 4 * p.rest.length + 8
  let (v, p) ←
    if isMark '-' p.rest then below? fuel (-1) false (p.drop 3) else node? fuel (-1) p
  let p ← skipAll? false p
  if p.rest = [] then return some v
  else if p.column == 0 && isMark '.' p.rest then
    let p ← skipAll? false (p.drop 3)
    if p.rest = [] then return some v else none
  else none

/-- The table that a file writes. -/
def parse? (t : Text) : Option (List (Text × Value)) :=
  match document? ⟨0, t⟩ with
  | some none => some []
  | some (some (.table es)) => some es
  | _ => none

end LineSearch.Data.Yaml
