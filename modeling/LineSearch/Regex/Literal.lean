/-
# Regular expressions between slashes

In a query a regular expression is written `/body/flags`.  The body reaches to the last slash, so
it may hold slashes itself; the flags are letters, each at most once.

`RegexLiteral.parse` reads the form; what the body means is left to a regular expression engine.
-/
import LineSearch.Text.Quoted

namespace LineSearch

/-- The letters after the last slash. -/
structure RegexFlags where
  /-- `g`: allowed, and without effect since only the first match counts. -/
  global : Bool := false
  /-- `i`: upper and lower case are the same. -/
  ignoreCase : Bool := false
  /-- `m`: `^` and `$` hold at every line of the text. -/
  multiLine : Bool := false
  /-- `y`: the match must begin at the first character. -/
  sticky : Bool := false
  deriving DecidableEq, Repr

/-- A regular expression as it stands in a query. -/
structure RegexLiteral where
  body : Text
  flags : RegexFlags
  deriving DecidableEq, Repr

/-- Why a word is no regular expression. -/
inductive RegexError where
  /-- The word does not have the form `/body/flags`. -/
  | notDelimited (term : Text)
  | unknownFlag (flag : Char)
  | duplicateFlag (flag : Char)
  /-- The body is no expression. -/
  | invalidBody
  deriving DecidableEq, Repr

/-- The message for an error.  What is wrong inside a body is not told. -/
def RegexError.message : RegexError → Text
  | notDelimited term =>
    "regex term must look like /pattern/flags: ".toList ++ Text.quoted term
  | unknownFlag flag =>
    "unsupported regex flag ".toList ++ Text.quotedChar flag
      ++ " (expected any of g, i, m, y)".toList
  | duplicateFlag flag =>
    "regex flag ".toList ++ Text.quotedChar flag ++ " given more than once".toList
  | invalidBody => []

namespace RegexFlags

/-- The flag of a letter, if there is one, as whether it is set and the flags with it set. -/
def withLetter (f : RegexFlags) : Char → Option (Bool × RegexFlags)
  | 'g' => some (f.global, { f with global := true })
  | 'i' => some (f.ignoreCase, { f with ignoreCase := true })
  | 'm' => some (f.multiLine, { f with multiLine := true })
  | 'y' => some (f.sticky, { f with sticky := true })
  | _ => none

/-- Adds the flags of some letters to those that are set; the first letter that is unknown or comes
again is the error. -/
def addLetters (f : RegexFlags) : Text → Except RegexError RegexFlags
  | [] => .ok f
  | c :: rest =>
    match f.withLetter c with
    | none => .error (.unknownFlag c)
    | some (true, _) => .error (.duplicateFlag c)
    | some (false, f) => f.addLetters rest

end RegexFlags

namespace RegexLiteral

/-- Reads a regular expression between slashes. -/
def parse (term : Text) : Except RegexError RegexLiteral :=
  match term with
  | '/' :: rest =>
    match Text.splitAtLast '/' rest with
    | none => .error (.notDelimited term)
    | some (body, letters) =>
      match RegexFlags.addLetters {} letters with
      | .error e => .error e
      | .ok flags => .ok { body, flags }
  | _ => .error (.notDelimited term)

end RegexLiteral

end LineSearch
