/-
# Lines of styled text

A line is made of runs of text, each in one style.  It is drawn cluster by cluster, as far as there
is room: it stops before the first cluster that does not fit.  Clusters with control characters are
left out, and so are those that take no cell.

`groupRuns` makes runs from characters that have a style each.
-/
import LineSearch.Screen.Canvas
import LineSearch.Text.Grapheme

namespace LineSearch.Screen

/-- A text in one style. -/
structure Run where
  text : Text
  style : Style := {}
  deriving DecidableEq, Repr

/-- Runs one after the other, and a style that theirs are laid over. -/
structure Line where
  runs : List Run
  style : Style := {}
  deriving DecidableEq, Repr

/-- Puts a character before runs; it joins the first one if the styles are the same. -/
def consRun (c : Char) (s : Style) : List Run → List Run
  | [] => [⟨[c], s⟩]
  | r :: rest => if s = r.style then ⟨c :: r.text, s⟩ :: rest else ⟨[c], s⟩ :: r :: rest

/-- The runs of characters that have a style each: neighbours in the same style are one run. -/
def groupRuns (chars : List (Char × Style)) : List Run :=
  chars.foldr (fun (c, s) runs => consRun c s runs) []

/-- A cluster in a style, as it is drawn. -/
structure Glyph where
  symbol : Text
  style : Style
  deriving DecidableEq, Repr

variable [Text.Layout]

/-- The number of cells that the glyph takes. -/
def Glyph.width (g : Glyph) : Nat := Text.Layout.width g.symbol

/-- The glyphs of a run, whose style is laid over `base`. -/
def Run.glyphs (base : Style) (r : Run) : List Glyph :=
  (Text.drawnClusters r.text).map fun cluster => ⟨cluster, base.patch r.style⟩

/-- The glyphs of a line. -/
def Line.glyphs (l : Line) : List Glyph := l.runs.flatMap (·.glyphs l.style)

/-- The glyphs that are drawn where there is room for so many cells, each with its column, if `used`
cells are taken already.  A glyph too wide for all of the room is left out; the first one too wide
for what is left of it ends the line. -/
def place (room : Nat) : (used : Nat) → List Glyph → List (Nat × Glyph)
  | _, [] => []
  | used, g :: rest =>
    if g.width = 0 || g.width > room then place room used rest
    else if used + g.width > room then []
    else (used, g) :: place room (used + g.width) rest

/-- Draws a line into the first row of an area. -/
def Canvas.line (c : Canvas) (a : Area) (l : Line) : Canvas :=
  (place a.width 0 l.glyphs).foldl
    (fun c (column, g) => c.modify (a.x + column) a.y (·.draw g.symbol g.style)) c

/-- Draws lines one below the other, as far as the area goes. -/
def Canvas.lines (c : Canvas) (a : Area) : (row : Nat) → List Line → Canvas
  | _, [] => c
  | row, l :: rest =>
    if row < a.height then (c.line ⟨a.x, a.y + row, a.width, 1⟩ l).lines a (row + 1) rest else c

end LineSearch.Screen
