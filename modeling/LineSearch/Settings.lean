/-
# Settings

What a user can set: the theme, whether lines are numbered, and three keys.  A key is set by a text,
which counts only if it is a single character.
-/
import LineSearch.Keymap
import LineSearch.Text.Basic

namespace LineSearch

/-- The texts that keys are set by. -/
structure Keybindings where
  search : Text := ['/']
  searchWord : Text := ['*']
  quit : Text := ['q']
  deriving DecidableEq, Repr

/-- The key that a text stands for: its only character, or else `fallback`. -/
def Keybindings.keyOf (fallback : Char) : Text → Char
  | [c] => c
  | _ => fallback

/-- The keys that the texts stand for. -/
def Keybindings.keymap (b : Keybindings) : Keymap where
  search := keyOf '/' b.search
  searchWord := keyOf '*' b.searchWord
  quit := keyOf 'q' b.quit

/-- The settings of the program. -/
structure Settings where
  theme : Text := "default".toList
  showLineNumbers : Bool := true
  keybindings : Keybindings := {}
  deriving DecidableEq, Repr

end LineSearch
