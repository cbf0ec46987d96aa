/-
# Separators and invisible characters

The general categories of separators, controls, format characters, surrogates and private use.
-/
import LineSearch.Text.RangeTable

namespace LineSearch.Text.Category

/-- Category Zs: spaces. -/
def spaceSeparator : RangeTable where
  ranges :=
   [(0x0020, 0x0020), (0x00A0, 0x00A0), (0x1680, 0x1680), (0x2000, 0x200A), (0x202F, 0x202F),
    (0x205F, 0x205F), (0x3000, 0x3000)]

/-- Category Zl: the line separator. -/
def lineSeparator : RangeTable where
  ranges :=
   [(0x2028, 0x2028)]

/-- Category Zp: the paragraph separator. -/
def paragraphSeparator : RangeTable where
  ranges :=
   [(0x2029, 0x2029)]

/-- Category Cc: control characters. -/
def control : RangeTable where
  ranges :=
   [(0x0000, 0x001F), (0x007F, 0x009F)]

/-- Category Cf: characters that only steer the layout. -/
def format : RangeTable where
  ranges :=
   [(0x00AD, 0x00AD), (0x0600, 0x0605), (0x061C, 0x061C), (0x06DD, 0x06DD), (0x070F, 0x070F),
    (0x0890, 0x0891), (0x08E2, 0x08E2), (0x180E, 0x180E), (0x200B, 0x200F), (0x202A, 0x202E),
    (0x2060, 0x2064), (0x2066, 0x206F), (0xFEFF, 0xFEFF), (0xFFF9, 0xFFFB), (0x110BD, 0x110BD),
    (0x110CD, 0x110CD), (0x13430, 0x1343F), (0x1BCA0, 0x1BCA3), (0x1D173, 0x1D17A),
    (0xE0001, 0xE0001), (0xE0020, 0xE007F)]

/-- Category Cs: surrogate code points, which no character is. -/
def surrogate : RangeTable where
  ranges :=
   [(0xD800, 0xDFFF)]

/-- Category Co: code points left to private agreement. -/
def privateUse : RangeTable where
  ranges :=
   [(0xE000, 0xF8FF), (0xF0000, 0xFFFFD), (0x100000, 0x10FFFD)]

end LineSearch.Text.Category
