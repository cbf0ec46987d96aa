/-
# Reading settings

Settings are read from texts, each of which is laid over those before it; the first one is that of
the default settings.  What a text does not speak of stays as it is, and what is not known is passed
over.
-/
import LineSearch.Data.Value
import LineSearch.Settings

namespace LineSearch

open Data (Value Parts Fault Format Reader)

namespace Settings

/-- The default settings as they are written to a new file. -/
def defaultText : Text :=
  ("[ui]\ntheme             = \"default\"\nshow_line_numbers = true\n\n[keybindings]\n" ++
    "search      = \"/\"\nsearch_word = \"*\"\nquit        = \"q\"\n").toList

/-- The default settings as they are built in: an empty line stands before them. -/
def builtInText : Text := '\n' :: defaultText

/-- Reads what is shown: the theme, and whether lines are numbered. -/
def readDisplay (v : Value) : Except Fault (Text × Bool) := do
  let d : Settings := {}
  let p ← Parts.ofValue v
  let theme ← p.read? 0 "theme" Value.asText
  let showLineNumbers ← p.read? 1 "show_line_numbers" Value.asBool
  return (theme.getD d.theme, showLineNumbers.getD d.showLineNumbers)

/-- Reads the texts that keys are set by. -/
def readKeybindings (v : Value) : Except Fault Keybindings := do
  let d : Keybindings := {}
  let p ← Parts.ofValue v
  let search ← p.read? 0 "search" Value.asText
  let searchWord ← p.read? 1 "search_word" Value.asText
  let quit ← p.read? 2 "quit" Value.asText
  return ⟨search.getD d.search, searchWord.getD d.searchWord, quit.getD d.quit⟩

/-- Reads settings from a table. -/
def ofEntries (es : List (Text × Value)) : Except Fault Settings := do
  let d : Settings := {}
  let p := Parts.named es
  let display ← p.read? 0 "ui" readDisplay
  let keybindings ← p.read? 1 "keybindings" readKeybindings
  let (theme, showLineNumbers) := display.getD (d.theme, d.showLineNumbers)
  return ⟨theme, showLineNumbers, keybindings.getD d.keybindings⟩

/-- Reads settings from texts, each laid over those before it. -/
def ofTexts [Reader] (texts : List (Format × Text)) : Except Fault Settings := do
  let es ← texts.foldlM (fun es (f, t) => return Reader.merge es (← Reader.parse? f t)) []
  ofEntries es

/-- The default settings. -/
def defaults [Reader] : Except Fault Settings := ofTexts [(.toml, builtInText)]

end Settings

end LineSearch
