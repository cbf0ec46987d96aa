/-
# Commands

What a user can ask for, whichever keys stand for it.  The viewer and the picker each obey the
commands that concern them.
-/

namespace LineSearch

/-- The four ways to go by one step. -/
inductive Direction where
  | up | down | left | right
  deriving DecidableEq, Repr

/-- A wish of the user, or a change of the terminal's size. -/
inductive Command where
  | quit
  /-- Begin a search with the query of the last one. -/
  | search
  /-- Begin a search with the selected text or the word at the cursor. -/
  | searchWord
  | move (d : Direction)
  | pageUp
  | pageDown
  | top
  | bottom
  /-- Type a character. -/
  | type (c : Char)
  | backspace
  | enter
  | escape
  | resize (width height : Nat)
  deriving DecidableEq, Repr

/-- By how many lines a page command moves. -/
def pageStep : Nat := 10

end LineSearch
