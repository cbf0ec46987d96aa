/-
# The picker

The picker is a line of input for a query, and below it the list of the candidates that the query
found, one of which is active.  It does not search itself: it takes note of what the user does, and
the notes are taken from it one by one.

`Picker.obey` is what a command of the user does, `Picker.apply` what a call of the search does.
-/
import LineSearch.Command
import LineSearch.InputLine
import LineSearch.Search

namespace LineSearch

/-- Something that happened in the picker. -/
inductive PickerEvent where
  | valueChanged (value : Text)
  | activeChanged (entries : List Candidate)
  | accepted
  | hidden
  deriving DecidableEq, Repr

/-- The event of a search that it is. -/
def PickerEvent.toSearchEvent : PickerEvent → SearchEvent
  | valueChanged value => .queryChanged value
  | activeChanged entries => .focusChanged entries
  | accepted => .accepted
  | hidden => .hidden

/-- The state of the picker; `events` are the notes not yet taken, the oldest first. -/
structure Picker where
  input : InputLine := {}
  items : List Candidate := []
  active : Option Nat := none
  selected : List Candidate := []
  visible : Bool := false
  events : List PickerEvent := []
  deriving DecidableEq, Repr

namespace Picker

/-- What stands in the line of input. -/
def value (p : Picker) : Text := p.input.text

/-- Whether the line of input shows the placeholder. -/
def showsPrompt (p : Picker) : Bool := p.value == Query.placeholder

/-- The active candidate, as a list of at most one. -/
def activeItems (p : Picker) : List Candidate :=
  match p.active with
  | some i => p.items[i]?.toList
  | none => []

/-- The column of the text cursor; in front of the placeholder it is the first one. -/
def cursorColumn (p : Picker) : Nat := if p.showsPrompt then 0 else p.input.column

/-- Takes a note. -/
def note (p : Picker) (e : PickerEvent) : Picker := { p with events := p.events ++ [e] }

/-- Makes the picker visible with nothing selected and all notes forgotten. -/
def present (p : Picker) : Picker := { p with visible := true, selected := [], events := [] }

/-- Hides the picker if it is visible. -/
def hide (p : Picker) : Picker :=
  if p.visible then { p with visible := false }.note .hidden else p

/-- Puts a text into the line of input. -/
def setValue (p : Picker) (value : Text) : Picker := { p with input := .ofText value }

/-- Makes the candidate with the given index active. -/
def setActiveIndex (p : Picker) (i : Nat) : Picker :=
  let p := { p with active := some i }
  p.note (.activeChanged p.activeItems)

/-- Replaces the list; its first candidate becomes active. -/
def setItems (p : Picker) (items : List Candidate) : Picker :=
  let p := { p with items, active := none }
  if items = [] then p else p.setActiveIndex 0

/-- Makes the first of the given candidates active, if it is in the list. -/
def setActive (p : Picker) (entries : List Candidate) : Picker :=
  match entries.head?.bind fun wanted => p.items.findIdx? (· = wanted) with
  | some i => p.setActiveIndex i
  | none => p

/-- Selects those of the given candidates that are in the list. -/
def setSelected (p : Picker) (entries : List Candidate) : Picker :=
  { p with selected := entries.filter fun wanted => wanted ∈ p.items }

/-- Does what a search calls for. -/
def apply (p : Picker) : PickerCall → Picker
  | .setValue value => p.setValue value
  | .setItems items => p.setItems items
  | .setActive entries => p.setActive entries
  | .setSelected entries => p.setSelected entries
  | .hide => p.hide

/-- Makes the candidate active that `goal` gives for the index of the active one, as far as the
list goes. -/
def moveActive (p : Picker) (goal : Nat → Nat) : Picker :=
  if p.items = [] then p
  else
    let next :=
      match p.active with
      | some i => min (goal i) (p.items.length - 1)
      | none => 0
    if p.active = some next then p else p.setActiveIndex next

/-- Takes note that the line of input was changed. -/
def noteValue (p : Picker) : Picker := p.note (.valueChanged p.value)

/-- Types a character; the first one replaces the placeholder. -/
def typeChar (p : Picker) (c : Char) : Picker :=
  let input := if p.showsPrompt then {} else p.input
  { p with input := input.insert c }.noteValue

/-- Removes the character before the cursor, if there is one. -/
def backspace (p : Picker) : Picker :=
  match p.input.erase? with
  | some input => { p with input }.noteValue
  | none => p

/-- Does what the user commands. -/
def obey (p : Picker) : Command → Picker
  | .type c => p.typeChar c
  | .backspace => p.backspace
  | .move .left => { p with input := p.input.left }
  | .move .right => { p with input := p.input.right }
  | .move .up => p.moveActive (· - 1)
  | .move .down => p.moveActive (· + 1)
  | .pageUp => p.moveActive (· - pageStep)
  | .pageDown => p.moveActive (· + pageStep)
  | .enter => { p with selected := p.activeItems }.note .accepted
  | .escape => p.hide
  | .quit | .search | .searchWord | .top | .bottom | .resize _ _ => p

end Picker

end LineSearch
