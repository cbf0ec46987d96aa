/-
# Drawing the program

The last row of the screen is the status bar, and above it is the document.  While the picker is
visible it lies over the upper part of the document, in the middle.
-/
import LineSearch.App
import LineSearch.Picker.Drawing
import LineSearch.Viewer.Drawing

namespace LineSearch

open Screen (Line Area Canvas)

/-- What the screen shows, and where its cursor is. -/
structure Frame where
  canvas : Canvas
  cursor : Nat × Nat := (0, 0)

namespace App

/-- The document as it is drawn. -/
def documentView (a : App) : DocumentView where
  document := a.document
  viewer := a.viewer
  highlights := a.highlights
  theme := a.theme
  title := a.document.displayName
  focused := !a.picker.visible
  showLineNumbers := a.showLineNumbers

/-- The text of the status bar: where the cursor is, and how many matches the picker lists. -/
def statusText (a : App) : Text :=
  let cursor := a.viewer.cursor
  let place :=
    [' '] ++ a.document.displayName ++ "  Ln ".toList ++ Text.decimal (cursor.line + 1) ++ ['/']
      ++ Text.decimal a.document.lineCount ++ ", Col ".toList ++ Text.decimal (cursor.column + 1)
  if a.picker.visible then
    place ++ "  ".toList ++ Text.decimal a.picker.items.length ++ " matches".toList
  else place

/-- The area of the picker within that of the document. -/
def pickerArea (body : Area) : Area :=
  let width := min (body.width - 4) 80
  { x := body.x + (body.width - width) / 2
    y := body.y + min 1 body.height
    width
    height := min (body.height - 2) 12 }

/-- The area of the document on a screen of the given size. -/
def bodyArea (width height : Nat) : Area := ⟨0, 0, width, height - 1⟩

/-- The area of the status bar. -/
def statusArea (width height : Nat) : Area := ⟨0, height - 1, width, min height 1⟩

/-- What a screen of the given size shows. -/
def frame [Text.Layout] (a : App) (width height : Nat) : Frame :=
  let body := bodyArea width height
  let status := statusArea width height
  let canvas := a.documentView.draw body (.blank width height)
  let canvas := (canvas.paint status a.theme.statusBar).line status
    { runs := [{ text := a.statusText }], style := a.theme.statusBar }
  if a.picker.visible then
    let area := pickerArea body
    { canvas := a.picker.draw a.theme area canvas, cursor := a.picker.cursorPlace area }
  else { canvas }

/-- The program after it was drawn on a screen of the given size: the viewer knows its height. -/
def drawn (a : App) (width height : Nat) : App :=
  { a with viewer := a.viewer.drawn (bodyArea width height).inner.height }

end App

end LineSearch
