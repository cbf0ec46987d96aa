/-
# Drawing a document

The document is drawn in a box: the lines from the first visible one on, numbered if that is wanted,
and at the right side a scroll bar if there are more lines than fit.

`DocumentView.charStyle` gives the style of a single character: that of the selection, or else that
of the highlight that covers it, or else that of plain text.  `DocumentView.line` groups the
characters of a line by their styles.
-/
import LineSearch.Highlight.Store
import LineSearch.Screen.Box
import LineSearch.Screen.Scrollbar
import LineSearch.Text.Digit
import LineSearch.Theme
import LineSearch.Viewer

namespace LineSearch

open Screen (Style Run Line Area Canvas Thumb)

/-- A document as it is to be drawn. -/
structure DocumentView where
  document : Document
  viewer : Viewer
  highlights : Highlight.Store
  theme : Theme
  title : Text := []
  focused : Bool := true
  showLineNumbers : Bool := true

namespace DocumentView

/-- The style of a character. -/
def charStyle (v : DocumentView) (p : Position) : Style :=
  if v.viewer.selection.covers p then v.theme.selection
  else
    match v.highlights.bucketAt p.line p.column with
    | some bucket => v.theme.text.patch (v.theme.highlight bucket)
    | none => v.theme.text

/-- The characters of a line in runs of one style each. -/
def textRuns (v : DocumentView) (line : Nat) : List Run :=
  Screen.groupRuns ((v.document.line line).mapIdx fun column c => (c, v.charStyle ⟨line, column⟩))

/-- The number before a line, which leaves room for that of the last line. -/
def numberRun (v : DocumentView) (line : Nat) : Run where
  text := Text.padLeft (Text.decimal v.document.lineCount).length (Text.decimal (line + 1)) ++ [' ']
  style := v.theme.lineNumber

/-- Whether the cursor is seen in the line. -/
def hasCursor (v : DocumentView) (line : Nat) : Bool := v.focused && line == v.viewer.cursor.line

/-- A line as it is drawn. -/
def line (v : DocumentView) (line : Nat) : Line where
  runs := (if v.showLineNumbers then [v.numberRun line] else []) ++ v.textRuns line
  style := if v.hasCursor line then v.theme.cursorLine else {}

/-- The first line that is drawn. -/
def firstLine (v : DocumentView) : Nat := min v.viewer.topLine v.document.lineCount

/-- The lines that are drawn where there is room for so many. -/
def visibleLines (v : DocumentView) (height : Nat) : List Line :=
  (List.range' v.firstLine (min height (v.document.lineCount - v.firstLine))).map v.line

/-- The style of the box. -/
def borderStyle (v : DocumentView) : Style :=
  if v.focused then v.theme.borderFocused else v.theme.borderUnfocused

/-- Draws the document into an area. -/
def draw [Text.Layout] (v : DocumentView) (a : Area) (c : Canvas) : Canvas :=
  let inner := a.inner
  let c := c.box a v.title v.borderStyle
  let c := c.lines { inner with width := inner.width - 1 } 0 (v.visibleLines inner.height)
  if v.document.lineCount > inner.height then
    c.scrollbar ⟨inner.right - 1, inner.y, 1, inner.height⟩
      (.ofList inner.height v.document.lineCount v.firstLine)
  else c

end DocumentView

end LineSearch
