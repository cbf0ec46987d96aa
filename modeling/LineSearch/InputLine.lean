/-
# A line of input

A text that is being typed, with a cursor in it.  The cursor is kept as the number of bytes before
it in UTF-8.  Every operation begins by cutting the text there; a cursor inside a character would
have no such cut, and then nothing happens.
-/
import LineSearch.Text.Basic

namespace LineSearch

namespace Text

/-- The number of bytes of a text in UTF-8. -/
def byteLength : Text → Nat
  | [] => 0
  | c :: rest => c.utf8Size + byteLength rest

/-- The characters of a text before and after the given number of bytes, if it does not end inside
a character or past the end. -/
def splitAtByte? : Text → Nat → Option (Text × Text)
  | t, 0 => some ([], t)
  | [], _ + 1 => none
  | c :: rest, n + 1 =>
    if c.utf8Size ≤ n + 1 then
      (splitAtByte? rest (n + 1 - c.utf8Size)).map fun (before, after) => (c :: before, after)
    else none

end Text

/-- A text and the number of bytes before the cursor. -/
structure InputLine where
  text : Text := []
  cursor : Nat := 0
  deriving DecidableEq, Repr

namespace InputLine

/-- A text with the cursor at its end. -/
def ofText (t : Text) : InputLine := ⟨t, t.byteLength⟩

/-- The text before the cursor and the text after it. -/
def split? (l : InputLine) : Option (Text × Text) := l.text.splitAtByte? l.cursor

/-- The number of characters before the cursor. -/
def column (l : InputLine) : Nat :=
  match l.split? with
  | some (before, _) => before.length
  | none => 0

/-- Types a character at the cursor. -/
def insert (l : InputLine) (c : Char) : InputLine :=
  match l.split? with
  | some (before, after) => ⟨before ++ c :: after, l.cursor + c.utf8Size⟩
  | none => l

/-- Removes the character before the cursor; `none` if there is none. -/
def erase? (l : InputLine) : Option InputLine :=
  match l.split? with
  | some (before, after) =>
    before.getLast?.map fun c => ⟨before.dropLast ++ after, l.cursor - c.utf8Size⟩
  | none => none

/-- Moves the cursor before the character before it. -/
def left (l : InputLine) : InputLine :=
  match l.split? with
  | some (before, _) =>
    match before.getLast? with
    | some c => { l with cursor := l.cursor - c.utf8Size }
    | none => l
  | none => l

/-- Moves the cursor behind the character after it. -/
def right (l : InputLine) : InputLine :=
  match l.split? with
  | some (_, c :: _) => { l with cursor := l.cursor + c.utf8Size }
  | _ => l

end InputLine

end LineSearch
