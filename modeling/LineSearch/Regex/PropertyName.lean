/-
# Names of character properties

`\p{...}` asks for a property by name.  Names are compared loosely: case, blanks, hyphens, low
lines and a leading "is" make no difference.  A property can also be named together with the kind
of property it belongs to, as in `\p{Script=Greek}` or `\p{gc!=Lu}`.

All general categories are known, but only the scripts of `script?` and the properties of `binary?`:
a name that asks for another one is refused here, as if there were no such property.
-/
import LineSearch.Regex.CharSet

namespace LineSearch.Regex.Property

open LineSearch.Text (Category Script)

/-- The name as it is looked up: lower-case ASCII without blanks, hyphens, low lines and a leading
"is".  The two letters "isc" keep their prefix. -/
def normalize (name : Text) : String :=
  let ascii := name.filter fun c => c.toNat < 0x80
  let strip (t : Text) := (t.filter fun c => c != ' ' && c != '-' && c != '_').map Char.toLower
  let hasIs := (name.take 2).map Char.toLower == ['i', 's']
  let rest := strip (if hasIs then ascii.drop 2 else ascii)
  if hasIs && rest == ['c'] then "isc" else String.ofList rest

/-- The general categories and their groups, by their short and long names. -/
def category? : String → Option CharSet
  | "any" => some CharSet.all
  | "ascii" => some (.range '\x00' '\x7f')
  | "assigned" => some (of Category.assigned)
  | "l" | "letter" => some (of Category.letters)
  | "lc" | "casedletter" => some (of Category.casedLetters)
  | "lu" | "uppercaseletter" => some (of [.lu])
  | "ll" | "lowercaseletter" => some (of [.ll])
  | "lt" | "titlecaseletter" => some (of [.lt])
  | "lm" | "modifierletter" => some (of [.lm])
  | "lo" | "otherletter" => some (of [.lo])
  | "m" | "mark" | "combiningmark" => some (of Category.marks)
  | "mn" | "nonspacingmark" => some (of [.mn])
  | "mc" | "spacingmark" => some (of [.mc])
  | "me" | "enclosingmark" => some (of [.me])
  | "n" | "number" => some (of Category.numbers)
  | "nd" | "decimalnumber" | "digit" => some (of [.nd])
  | "nl" | "letternumber" => some (of [.nl])
  | "no" | "othernumber" => some (of [.no])
  | "p" | "punctuation" | "punct" => some (of Category.punctuation)
  | "pc" | "connectorpunctuation" => some (of [.pc])
  | "pd" | "dashpunctuation" => some (of [.pd])
  | "ps" | "openpunctuation" => some (of [.ps])
  | "pe" | "closepunctuation" => some (of [.pe])
  | "pi" | "initialpunctuation" => some (of [.pi])
  | "pf" | "finalpunctuation" => some (of [.pf])
  | "po" | "otherpunctuation" => some (of [.po])
  | "s" | "symbol" => some (of Category.symbols)
  | "sm" | "mathsymbol" => some (of [.sm])
  | "sc" | "currencysymbol" => some (of [.sc])
  | "sk" | "modifiersymbol" => some (of [.sk])
  | "so" | "othersymbol" => some (of [.so])
  | "z" | "separator" => some (of Category.separators)
  | "zs" | "spaceseparator" => some (of [.zs])
  | "zl" | "lineseparator" => some (of [.zl])
  | "zp" | "paragraphseparator" => some (of [.zp])
  | "c" | "other" => some (of Category.others)
  | "cc" | "control" | "cntrl" => some (of [.cc])
  | "cf" | "format" => some (of [.cf])
  | "co" | "privateuse" => some (of [.co])
  | "cn" | "unassigned" => some (of [.cn])
  | _ => none
where
  of (ks : List Category) : CharSet := .property (.categories ks)

/-- The scripts that are known, by their short and long names. -/
def script? : String → Option CharSet
  | "cyrl" | "cyrillic" => some (.property (.script .cyrillic))
  | "grek" | "greek" => some (.property (.script .greek))
  | "hani" | "han" => some (.property (.script .han))
  | "hira" | "hiragana" => some (.property (.script .hiragana))
  | "kana" | "katakana" => some (.property (.script .katakana))
  | "latn" | "latin" => some (.property (.script .latin))
  | _ => none

/-- The properties that are known among those that a character simply has or has not. -/
def binary? : String → Option CharSet
  | "alpha" | "alphabetic" => some (.property .alphabetic)
  | "upper" | "uppercase" => some (.property .uppercase)
  | "lower" | "lowercase" => some (.property .lowercase)
  | "space" | "whitespace" | "wspace" => some (.property .whitespace)
  | _ => none

/-- The set that a name alone stands for. -/
def named? (name : Text) : Option CharSet :=
  let key := normalize name
  (binary? key).or ((category? key).or (script? key))

/-- The set of the characters whose property of the kind `kind` has the value `value`. -/
def valued? (kind value : Text) : Option CharSet :=
  match normalize kind with
  | "gc" | "generalcategory" => category? (normalize value)
  | "sc" | "script" | "scx" | "scriptextensions" => script? (normalize value)
  | _ => none

/-- The two parts of a text around the first place where `separator` stands. -/
def cut? (separator : Text) : Text → Option (Text × Text)
  | [] => none
  | c :: rest =>
    if separator.isPrefixOf (c :: rest) then some ([], (c :: rest).drop separator.length)
    else (cut? separator rest).map fun (before, after) => (c :: before, after)

/-- What the text between the braces asks for: a name alone, or a kind and a value with `!=`, `:` or
`=` between them.  The flag says that the set has to be complemented. -/
def ofBraces? (content : Text) : Option (Bool × CharSet) :=
  match cut? ['!', '='] content with
  | some (kind, value) => (valued? kind value).map (true, ·)
  | none =>
    match (cut? [':'] content).or (cut? ['='] content) with
    | some (kind, value) => (valued? kind value).map (false, ·)
    | none => (named? content).map (false, ·)

end LineSearch.Regex.Property
