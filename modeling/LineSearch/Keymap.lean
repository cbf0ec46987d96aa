/-
# Keys and what they mean

A terminal reports keys with the modifiers that were held.  While a document is read, letters are
commands, three of which can be chosen; while the picker is open, letters are typed.
-/
import LineSearch.Command

namespace LineSearch

/-- The keys of a keyboard. -/
inductive Key where
  | char (c : Char)
  | up | down | left | right
  | pageUp | pageDown | home | «end»
  | escape | enter | backspace
  /-- Any other key, such as Tab or a function key. -/
  | other
  deriving DecidableEq, Repr

/-- The modifiers that are held. -/
structure Modifiers where
  shift : Bool := false
  control : Bool := false
  alt : Bool := false
  super : Bool := false
  deriving DecidableEq, Repr

namespace Modifiers

/-- No modifier. -/
def none : Modifiers := {}

/-- The control key alone. -/
def onlyControl : Modifiers := { control := true }

/-- No modifier, or the shift key alone: a character is typed as it is. -/
def isPlain (m : Modifiers) : Bool := m = none || m = { shift := true }

end Modifiers

/-- How a key was used. -/
inductive KeyUse where
  | press | again | release
  deriving DecidableEq, Repr

/-- What a terminal reports. -/
inductive TerminalEvent where
  | key (k : Key) (m : Modifiers) (use : KeyUse)
  | resize (width height : Nat)
  /-- The focus, the mouse or the clipboard. -/
  | other
  deriving DecidableEq, Repr

/-- The three keys that can be chosen. -/
structure Keymap where
  search : Char := '/'
  searchWord : Char := '*'
  quit : Char := 'q'
  deriving DecidableEq, Repr

namespace Keymap

/-- The meaning of a typed character while a document is read.  The chosen keys come first. -/
def charCommand (keys : Keymap) (c : Char) (m : Modifiers) : Option Command :=
  if c = 'c' && m = .onlyControl then some .quit
  else if c = 'u' && m = .onlyControl then some .pageUp
  else if c = 'd' && m = .onlyControl then some .pageDown
  else if m.isPlain && c = keys.quit then some .quit
  else if m.isPlain && c = keys.search then some .search
  else if m.isPlain && c = keys.searchWord then some .searchWord
  else if m = .none && c = 'k' then some (.move .up)
  else if m = .none && c = 'j' then some (.move .down)
  else if m = .none && c = 'h' then some (.move .left)
  else if m = .none && c = 'l' then some (.move .right)
  else if m = .none && c = 'g' then some .top
  else if m.isPlain && c = 'G' then some .bottom
  else none

/-- The meaning of a key while a document is read. -/
def keyCommand (keys : Keymap) (k : Key) (m : Modifiers) : Option Command :=
  let bare (c : Command) : Option Command := if m = .none then some c else none
  match k with
  | .char c => keys.charCommand c m
  | .up => bare (.move .up)
  | .down => bare (.move .down)
  | .left => bare (.move .left)
  | .right => bare (.move .right)
  | .pageUp => some .pageUp
  | .pageDown => some .pageDown
  | .home => bare .top
  | .end => some .bottom
  | .escape => some .escape
  | .enter | .backspace | .other => none

/-- The meaning of a key while the picker is open. -/
def pickerKeyCommand (k : Key) (m : Modifiers) : Option Command :=
  match k with
  | .char c =>
    if m.isPlain then some (.type c)
    else if m = .onlyControl then
      if c = 'c' then some .quit
      else if c = 'p' then some (.move .up)
      else if c = 'n' then some (.move .down)
      else none
    else none
  | .up => some (.move .up)
  | .down => some (.move .down)
  | .left => some (.move .left)
  | .right => some (.move .right)
  | .pageUp => some .pageUp
  | .pageDown => some .pageDown
  | .backspace => some .backspace
  | .enter => some .enter
  | .escape => some .escape
  | .home | .end | .other => none

/-- The meaning of a report while a document is read.  How a key was used makes no difference
here. -/
def command (keys : Keymap) : TerminalEvent → Option Command
  | .key k m _ => keys.keyCommand k m
  | .resize width height => some (.resize width height)
  | .other => none

/-- The meaning of a report while the picker is open. -/
def pickerCommand : TerminalEvent → Option Command
  | .key k m _ => pickerKeyCommand k m
  | .resize width height => some (.resize width height)
  | .other => none

end Keymap

end LineSearch
