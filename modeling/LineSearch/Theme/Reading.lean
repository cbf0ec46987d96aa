/-
# Reading themes

A theme is written as a table of styles.  Each style may fix its colours and its attributes, and
the palette is a list of colours; what is no colour is passed over.
-/
import LineSearch.Data.Value
import LineSearch.Theme

namespace LineSearch

open Screen (Style Color ColorFault Attributes)
open Data (Value Parts Fault Reader)

/-- Why a theme could not be read. -/
inductive ThemeFault where
  | unreadable (f : Fault)
  /-- Only so many entries of the palette are colours. -/
  | paletteTooSmall (got : Nat)
  | color (f : ColorFault)
  deriving DecidableEq, Repr

/-- The message for a palette that is too small; the other faults have none of their own. -/
def ThemeFault.message? : ThemeFault → Option Text
  | paletteTooSmall got =>
    some ("highlight palette needs at least ".toList ++ Text.decimal Highlight.minBuckets ++
      " colours, got ".toList ++ Text.decimal got)
  | unreadable _ | color _ => none

/-- A style as it is written. -/
structure StyleText where
  fg : Option Text
  bg : Option Text
  attributes : Attributes

namespace StyleText

/-- Reads a written style. -/
def ofValue (v : Value) : Except Fault StyleText := do
  let p ← Parts.ofValue v
  let fg ← p.read? 0 "fg" (Value.asOption Value.asText)
  let bg ← p.read? 1 "bg" (Value.asOption Value.asText)
  let bold ← p.read? 2 "bold" Value.asBool
  let dim ← p.read? 3 "dim" Value.asBool
  let italic ← p.read? 4 "italic" Value.asBool
  let underlined ← p.read? 5 "underlined" Value.asBool
  let no := false
  return {
    fg := ← p.demandPlaced fg
    bg := ← p.demandPlaced bg
    attributes := ⟨bold.getD no, dim.getD no, italic.getD no, underlined.getD no⟩ }

/-- The colour that a text names, if there is a text. -/
def color? : Option Text → Except ColorFault (Option Color)
  | some t => Color.parse? t
  | none => .ok none

/-- The style that is written. -/
def style (s : StyleText) : Except ColorFault Style := do
  return { fg := ← color? s.fg, bg := ← color? s.bg, attributes := s.attributes }

end StyleText

/-- The styles of a document as they are written. -/
structure EditorText where
  text : StyleText
  lineNumber : StyleText
  cursorLine : StyleText
  selection : StyleText

/-- The styles of borders as they are written. -/
structure BordersText where
  focused : StyleText
  unfocused : StyleText

/-- The styles of the picker as they are written. -/
structure PickerText where
  prompt : StyleText
  activeItem : StyleText
  description : StyleText

/-- A theme as it is written. -/
structure ThemeText where
  editor : EditorText
  borders : BordersText
  picker : PickerText
  statusBar : StyleText
  palette : List Text

/-- Reads the styles of a document. -/
def EditorText.ofValue (v : Value) : Except Fault EditorText := do
  let p ← Parts.ofValue v
  let text ← p.read? 0 "text" StyleText.ofValue
  let lineNumber ← p.read? 1 "line_number" StyleText.ofValue
  let cursorLine ← p.read? 2 "cursor_line" StyleText.ofValue
  let selection ← p.read? 3 "selection" StyleText.ofValue
  return ⟨← p.demand text, ← p.demand lineNumber, ← p.demand cursorLine, ← p.demand selection⟩

/-- Reads the styles of borders. -/
def BordersText.ofValue (v : Value) : Except Fault BordersText := do
  let p ← Parts.ofValue v
  let focused ← p.read? 0 "focused" StyleText.ofValue
  let unfocused ← p.read? 1 "unfocused" StyleText.ofValue
  return ⟨← p.demand focused, ← p.demand unfocused⟩

/-- Reads the styles of the picker. -/
def PickerText.ofValue (v : Value) : Except Fault PickerText := do
  let p ← Parts.ofValue v
  let prompt ← p.read? 0 "prompt" StyleText.ofValue
  let activeItem ← p.read? 1 "active_item" StyleText.ofValue
  let description ← p.read? 2 "description" StyleText.ofValue
  return ⟨← p.demand prompt, ← p.demand activeItem, ← p.demand description⟩

namespace ThemeText

/-- Reads the only part of a value. -/
def only {α : Type} (name : String) (read : Value → Except Fault α) (v : Value) :
    Except Fault α := do
  let p ← Parts.ofValue v
  p.demand (← p.read? 0 name read)

/-- Reads a theme from a table. -/
def ofEntries (es : List (Text × Value)) : Except Fault ThemeText := do
  let p := Parts.named es
  let editor ← p.read? 0 "editor" EditorText.ofValue
  let borders ← p.read? 1 "borders" BordersText.ofValue
  let picker ← p.read? 2 "picker" PickerText.ofValue
  let statusBar ← p.read? 3 "status" (only "bar" StyleText.ofValue)
  let palette ← p.read? 4 "highlight" (only "palette" (Value.asList Value.asText))
  return ⟨← p.demand editor, ← p.demand borders, ← p.demand picker, ← p.demand statusBar,
    ← p.demand palette⟩

end ThemeText

namespace Theme

/-- The theme that is written.  The palette is looked at first. -/
def ofText (t : ThemeText) : Except ThemeFault Theme := do
  let colors ← (t.palette.mapM Color.parse?).mapError .color
  let palette := (colors.filterMap id).map highlightStyle
  if h : Highlight.minBuckets ≤ palette.length then
    let style (s : StyleText) : Except ThemeFault Style := s.style.mapError .color
    return {
      text := ← style t.editor.text
      lineNumber := ← style t.editor.lineNumber
      cursorLine := ← style t.editor.cursorLine
      selection := ← style t.editor.selection
      borderFocused := ← style t.borders.focused
      borderUnfocused := ← style t.borders.unfocused
      prompt := ← style t.picker.prompt
      activeItem := ← style t.picker.activeItem
      description := ← style t.picker.description
      statusBar := ← style t.statusBar
      palette
      enough := h }
  else .error (.paletteTooSmall palette.length)

/-- The theme that a TOML file writes. -/
def ofToml [Reader] (t : Text) : Except ThemeFault Theme := do
  let es ← (Reader.parse? .toml t).mapError .unreadable
  ofText (← (ThemeText.ofEntries (Reader.merge [] es)).mapError .unreadable)

end Theme

end LineSearch
