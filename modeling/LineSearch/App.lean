/-
# The whole program while it runs

A document, its viewer, what is painted in it, the picker and the search between them, and how the
user has set things up.

`App.handle` is the effect of a command and `App.dispatch` that of a report of the terminal.  After
each of them the notes of the picker are delivered to the search one by one; the search calls the
partners, which may lead to more notes, until there are none left.
-/
import LineSearch.Highlight.Store
import LineSearch.Keymap
import LineSearch.Picker
import LineSearch.Theme
import LineSearch.Viewer

namespace LineSearch

/-- The state of the program. -/
structure App where
  document : Document
  viewer : Viewer
  highlights : Highlight.Store := {}
  picker : Picker := {}
  search : Search
  theme : Theme
  showLineNumbers : Bool
  keymap : Keymap
  quit : Bool := false

namespace App

/-- The program when it has just read a document. -/
def new (document : Document) (theme : Theme) (showLineNumbers : Bool) (keymap : Keymap) : App where
  document
  viewer := .ofLineCount document.lineCount
  search := { palette := theme.buckets }
  theme
  showLineNumbers
  keymap

/-- What the search sees of the rest. -/
def surroundings (a : App) : Surroundings where
  document := a.document
  selection := a.viewer.selection
  topLine := a.viewer.topLine
  pickerValue := a.picker.value
  pickerSelected := a.picker.selected

/-- Makes one call of the search. -/
def call (a : App) : Call → App
  | .picker c => { a with picker := a.picker.apply c }
  | .viewer c => { a with viewer := a.viewer.apply c }
  | .painter c => { a with highlights := a.highlights.paint c }

variable [Regex.Engine]

/-- Lets the search hear of an event and makes its calls. -/
def tell (a : App) (e : SearchEvent) : App :=
  let (search, calls) := a.search.step a.surroundings e
  calls.foldl call { a with search }

/-- Takes the oldest note of the picker and delivers it; `none` if there is no note. -/
def deliverOne (a : App) : Option App :=
  match a.picker.events with
  | [] => none
  | e :: rest => some ({ a with picker := { a.picker with events := rest } }.tell e.toSearchEvent)

/-- Delivers notes, at most so many. -/
def deliver : Nat → App → App
  | 0, a => a
  | n + 1, a =>
    match a.deliverOne with
    | some a => deliver n a
    | none => a

/-- Delivers all notes.  One note leads to at most two more, and those lead to none. -/
def settle (a : App) : App := deliver (3 * a.picker.events.length) a

/-- Begins a search, unless one is going on. -/
def openSearch (a : App) : App :=
  if a.search.isSearching then a
  else ({ a with picker := a.picker.present }.tell .opened).settle

/-- Begins a search for the given text, unless one is going on. -/
def openSearchWith (a : App) (seed : Text) : App :=
  if a.search.isSearching then a
  else ({ a with picker := a.picker.present }.tell (.openedWith seed)).settle

/-- The effect of a command.  While the picker is open it gets all commands but the last two
kinds. -/
def handle (a : App) (c : Command) : App :=
  match c with
  | .quit => { a with quit := true }
  | .resize _ _ => a
  | c =>
    if a.picker.visible then { a with picker := a.picker.obey c }.settle
    else
      match c with
      | .search => a.openSearch
      | .searchWord => a.openSearchWith (a.document.seed a.viewer.selection)
      | c => { a with viewer := a.viewer.obey a.document c }

/-- The command that a report of the terminal stands for.  Of the uses of a key only the press
counts. -/
def commandOf (a : App) (e : TerminalEvent) : Option Command :=
  match e with
  | .key k m .press =>
    if a.picker.visible then Keymap.pickerKeyCommand k m else a.keymap.keyCommand k m
  | .key _ _ _ => none
  | e => a.keymap.command e

/-- The effect of a report of the terminal. -/
def dispatch (a : App) (e : TerminalEvent) : App :=
  match a.commandOf e with
  | some c => a.handle c
  | none => a

end App

end LineSearch
