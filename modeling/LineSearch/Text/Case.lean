/-
# Upper and lower case as properties

The properties Uppercase, Lowercase, Cased and Case_Ignorable.  A title-case digraph is cased but
neither upper nor lower case.
-/
import LineSearch.Text.Category

namespace LineSearch.Text

/-- The characters that are Uppercase without being upper-case letters. -/
def otherUppercase : RangeTable where
  ranges :=
   [(0x2160, 0x216F), (0x24B6, 0x24CF), (0x1F130, 0x1F149), (0x1F150, 0x1F169), (0x1F170, 0x1F189)]

/-- The characters that are Lowercase without being lower-case letters. -/
def otherLowercase : RangeTable where
  ranges :=
   [(0x00AA, 0x00AA), (0x00BA, 0x00BA), (0x02B0, 0x02B8), (0x02C0, 0x02C1), (0x02E0, 0x02E4),
    (0x0345, 0x0345), (0x037A, 0x037A), (0x10FC, 0x10FC), (0x1D2C, 0x1D6A), (0x1D78, 0x1D78),
    (0x1D9B, 0x1DBF), (0x2071, 0x2071), (0x207F, 0x207F), (0x2090, 0x209C), (0x2170, 0x217F),
    (0x24D0, 0x24E9), (0x2C7C, 0x2C7D), (0xA69C, 0xA69D), (0xA770, 0xA770), (0xA7F1, 0xA7F4),
    (0xA7F8, 0xA7F9), (0xAB5C, 0xAB5F), (0xAB69, 0xAB69), (0x10780, 0x10780), (0x10783, 0x10785),
    (0x10787, 0x107B0), (0x107B2, 0x107BA), (0x1E030, 0x1E06D)]

/-- The property Uppercase. -/
def isUppercase (c : Char) : Bool := Category.lu.has c || otherUppercase.contains c

/-- The property Lowercase. -/
def isLowercase (c : Char) : Bool := Category.ll.has c || otherLowercase.contains c

/-- The property Cased: the character takes part in the distinction of cases. -/
def isCased (c : Char) : Bool := isUppercase c || isLowercase c || Category.lt.has c

/-- The punctuation that may stand inside a word, such as an apostrophe. -/
def isMidWord (c : Char) : Bool :=
  [0x27, 0x2E, 0x3A, 0xB7, 0x387, 0x55F, 0x5F4, 0x2018, 0x2019, 0x2024, 0x2027, 0xFE13, 0xFE52,
    0xFE55, 0xFF07, 0xFF0E, 0xFF1A].contains c.toNat

/-- The property Case_Ignorable: the character is passed over when the letters around a place are
looked at. -/
def isCaseIgnorable (c : Char) : Bool :=
  isMidWord c || Category.hasAny [.mn, .me, .cf, .lm, .sk] c

end LineSearch.Text
