/-
# Themes

A theme gives the styles of everything that is drawn.  Among them is the palette of the highlights,
which has enough styles for the first few conditions of a query to be told apart.

There are two themes that are always at hand; `Theme.named` finds one by name.
-/
import LineSearch.Highlight.Buckets
import LineSearch.Screen.Style

namespace LineSearch

open Screen (Style Color Attributes)

/-- The styles of everything that is drawn. -/
structure Theme where
  text : Style
  lineNumber : Style
  /-- Laid under the line that the cursor is in. -/
  cursorLine : Style
  selection : Style
  borderFocused : Style
  borderUnfocused : Style
  /-- The line of input while it shows the placeholder. -/
  prompt : Style
  activeItem : Style
  description : Style
  statusBar : Style
  /-- One style for each bucket of highlights. -/
  palette : List Style
  enough : Highlight.minBuckets ≤ palette.length

namespace Theme

/-- The style of a bucket; after the last style of the palette comes the first one again. -/
def highlight (t : Theme) (bucket : Nat) : Style :=
  t.palette.getD (bucket % t.palette.length) {}

/-- The number of buckets that the theme can paint. -/
def buckets (t : Theme) : Highlight.Palette := ⟨t.palette.length, t.enough⟩

/-- The style of a bucket with the given colour: it stands out in every other way too. -/
def highlightStyle (c : Color) : Style :=
  { fg := some c, attributes := { bold := true, underlined := true } }

/-- The theme of plain terminal colours. -/
def default : Theme where
  text := { fg := some .white }
  lineNumber := { fg := some .darkGray }
  cursorLine := { bg := some (.indexed 236) }
  selection := { fg := some .black, bg := some .lightBlue }
  borderFocused := { fg := some .cyan, attributes := { bold := true } }
  borderUnfocused := { fg := some .darkGray }
  prompt := { fg := some .darkGray, attributes := { italic := true } }
  activeItem := { fg := some .black, bg := some .cyan, attributes := { bold := true } }
  description := { fg := some .darkGray }
  statusBar := { fg := some .black, bg := some .gray }
  palette := [.red, .blue, .green, .yellow, .lightCyan, .cyan].map highlightStyle
  enough := by decide

/-- The dark theme of the Gruvbox colours. -/
def gruvboxDark : Theme where
  text := { fg := some (.rgb 0xeb 0xdb 0xb2) }
  lineNumber := { fg := some (.rgb 0x7c 0x6f 0x64) }
  cursorLine := { bg := some (.rgb 0x3c 0x38 0x36) }
  selection := { fg := some (.rgb 0x28 0x28 0x28), bg := some (.rgb 0x83 0xa5 0x98) }
  borderFocused := { fg := some (.rgb 0xfa 0xbd 0x2f), attributes := { bold := true } }
  borderUnfocused := { fg := some (.rgb 0x50 0x49 0x45) }
  prompt := { fg := some (.rgb 0x92 0x83 0x74), attributes := { italic := true } }
  activeItem :=
    { fg := some (.rgb 0x28 0x28 0x28), bg := some (.rgb 0xfa 0xbd 0x2f)
      attributes := { bold := true } }
  description := { fg := some (.rgb 0x92 0x83 0x74) }
  statusBar := { fg := some (.rgb 0x28 0x28 0x28), bg := some (.rgb 0xa8 0x99 0x84) }
  palette :=
    [.rgb 0xfb 0x49 0x34, .rgb 0x83 0xa5 0x98, .rgb 0xb8 0xbb 0x26, .rgb 0xfa 0xbd 0x2f,
      .rgb 0x8e 0xc0 0x7c, .rgb 0xd3 0x86 0x9b].map highlightStyle
  enough := by decide

/-- The theme of a name, in which the case of ASCII letters makes no difference; the default one for
a name that no theme has. -/
def named (name : Text) : Theme :=
  match String.ofList (name.map Char.toLower) with
  | "gruvbox" | "gruvbox_dark" | "gruvbox-dark" => gruvboxDark
  | _ => default

end Theme

end LineSearch
