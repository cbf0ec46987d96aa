/-
# General categories

Every code point belongs to exactly one general category.  Most categories are given by a table;
the unassigned code points are those that no table holds.

The property Grapheme_Extend is put together from categories and a table of its own: it is that of
the characters that are drawn on, around or joined to the one before them.
-/
import LineSearch.Text.Category.CasedLetter
import LineSearch.Text.Category.Mark
import LineSearch.Text.Category.Number
import LineSearch.Text.Category.Other
import LineSearch.Text.Category.Punctuation
import LineSearch.Text.Category.Symbol
import LineSearch.Text.Category.UncasedLetter

namespace LineSearch.Text

/-- The general categories of Unicode, named by their two-letter abbreviations. -/
inductive Category where
  | lu | ll | lt | lm | lo
  | mn | mc | me
  | nd | nl | no
  | pc | pd | ps | pe | pi | pf | po
  | sm | sc | sk | so
  | zs | zl | zp
  | cc | cf | cs | co | cn
  deriving DecidableEq, Repr

namespace Category

/-- The table of a category; the one of the unassigned code points is empty, since those are what
the other tables leave over. -/
def table : Category → RangeTable
  | lu => uppercaseLetter
  | ll => lowercaseLetter
  | lt => titlecaseLetter
  | lm => modifierLetter
  | lo => otherLetter
  | mn => nonspacingMark
  | mc => spacingMark
  | me => enclosingMark
  | nd => decimalNumber
  | nl => letterNumber
  | no => otherNumber
  | pc => connectorPunctuation
  | pd => dashPunctuation
  | ps => openPunctuation
  | pe => closePunctuation
  | pi => initialPunctuation
  | pf => finalPunctuation
  | po => otherPunctuation
  | sm => mathSymbol
  | sc => currencySymbol
  | sk => modifierSymbol
  | so => otherSymbol
  | zs => spaceSeparator
  | zl => lineSeparator
  | zp => paragraphSeparator
  | cc => control
  | cf => format
  | cs => surrogate
  | co => privateUse
  | cn => ⟨[], []⟩

def letters : List Category := [lu, ll, lt, lm, lo]
def casedLetters : List Category := [lu, ll, lt]
def marks : List Category := [mn, mc, me]
def numbers : List Category := [nd, nl, no]
def punctuation : List Category := [pc, pd, ps, pe, pi, pf, po]
def symbols : List Category := [sm, sc, sk, so]
def separators : List Category := [zs, zl, zp]
def others : List Category := [cc, cf, cs, co, cn]

/-- The categories of the assigned code points. -/
def assigned : List Category :=
  letters ++ marks ++ numbers ++ punctuation ++ symbols ++ separators ++ [cc, cf, cs, co]

/-- Whether no category claims the character. -/
def isUnassigned (c : Char) : Bool :=
  !assigned.any fun k => k.table.contains c

/-- Whether the character belongs to the category. -/
def has (k : Category) (c : Char) : Bool :=
  if k = cn then isUnassigned c else k.table.contains c

/-- Whether the character belongs to one of the categories. -/
def hasAny (ks : List Category) (c : Char) : Bool :=
  ks.any fun k => k.has c

end Category

/-- The characters that extend a grapheme without being nonspacing or enclosing marks. -/
def otherGraphemeExtend : RangeTable where
  ranges :=
   [(0x09BE, 0x09BE), (0x09D7, 0x09D7), (0x0B3E, 0x0B3E), (0x0B57, 0x0B57), (0x0BBE, 0x0BBE),
    (0x0BD7, 0x0BD7), (0x0CC0, 0x0CC0), (0x0CC2, 0x0CC2), (0x0CC7, 0x0CC8), (0x0CCA, 0x0CCB),
    (0x0CD5, 0x0CD6), (0x0D3E, 0x0D3E), (0x0D57, 0x0D57), (0x0DCF, 0x0DCF), (0x0DDF, 0x0DDF),
    (0x1715, 0x1715), (0x1734, 0x1734), (0x1B35, 0x1B35), (0x1B3B, 0x1B3B), (0x1B3D, 0x1B3D),
    (0x1B43, 0x1B44), (0x1BAA, 0x1BAA), (0x1BF2, 0x1BF3), (0x200C, 0x200C), (0x302E, 0x302F),
    (0xA953, 0xA953), (0xA9C0, 0xA9C0), (0xFF9E, 0xFF9F), (0x111C0, 0x111C0), (0x11235, 0x11235),
    (0x1133E, 0x1133E), (0x1134D, 0x1134D), (0x11357, 0x11357), (0x113B8, 0x113B8),
    (0x113C2, 0x113C2), (0x113C5, 0x113C5), (0x113C7, 0x113C9), (0x113CF, 0x113CF),
    (0x114B0, 0x114B0), (0x114BD, 0x114BD), (0x115AF, 0x115AF), (0x116B6, 0x116B6),
    (0x11930, 0x11930), (0x1193D, 0x1193D), (0x11F41, 0x11F41), (0x16FF0, 0x16FF1),
    (0x1D165, 0x1D166), (0x1D16D, 0x1D172), (0xE0020, 0xE007F)]

/-- The property Grapheme_Extend. -/
def isGraphemeExtend (c : Char) : Bool :=
  Category.hasAny [.mn, .me] c || otherGraphemeExtend.contains c

end LineSearch.Text
