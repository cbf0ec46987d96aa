/-
# Sets of characters in regular expressions

A set is kept in the form in which it was written, and asked character by character.  `fold` turns
a set into the one that ignores case: it holds a character as soon as the set holds one that
differs from it in case only.
-/
import LineSearch.Text.CaseFold
import LineSearch.Text.Letter
import LineSearch.Text.Script
import LineSearch.Text.Whitespace

namespace LineSearch.Regex

/-- The properties of characters that a set may ask for. -/
inductive Property where
  | categories (ks : List Text.Category)
  | script (s : Text.Script)
  | alphabetic
  | uppercase
  | lowercase
  | whitespace
  | wordPart
  deriving DecidableEq, Repr

/-- Whether a character has the property. -/
def Property.holds : Property → Char → Bool
  | categories ks, c => Text.Category.hasAny ks c
  | script s, c => s.has c
  | alphabetic, c => Text.isAlphabetic c
  | uppercase, c => Text.isUppercase c
  | lowercase, c => Text.isLowercase c
  | whitespace, c => Text.isWhitespace c
  | wordPart, c => Text.isWordPart c

/-- Which characters differ in case only: those with one simple case folding, or only the ASCII
letters. -/
inductive CaseRule where
  | unicode
  | ascii
  deriving DecidableEq, Repr

/-- The characters that differ from `c` at most in case. -/
def CaseRule.variants : CaseRule → Char → List Char
  | unicode, c => Text.variants c
  | ascii, c => Text.asciiVariants c

/-- A set of characters. -/
inductive CharSet where
  | empty
  | range (first last : Char)
  | property (p : Property)
  | compl (s : CharSet)
  | union (s t : CharSet)
  | inter (s t : CharSet)
  | fold (rule : CaseRule) (s : CharSet)
  deriving DecidableEq, Repr

namespace CharSet

/-- Membership of a character in a set. -/
def contains : CharSet → Char → Bool
  | empty, _ => false
  | range first last, c => first ≤ c && c ≤ last
  | property p, c => p.holds c
  | compl s, c => !s.contains c
  | union s t, c => s.contains c || t.contains c
  | inter s t, c => s.contains c && t.contains c
  | fold rule s, c => (rule.variants c).any s.contains

/-- The set of one character. -/
def singleton (c : Char) : CharSet := range c c

/-- The set of all characters. -/
def all : CharSet := compl empty

/-- The members of `s` that are not in `t`. -/
def diff (s t : CharSet) : CharSet := inter s (compl t)

/-- The characters in exactly one of the two sets. -/
def symmDiff (s t : CharSet) : CharSet := union (diff s t) (diff t s)

/-- The union of several sets. -/
def unionAll (ss : List CharSet) : CharSet := ss.foldl union empty

/-- The complement, if it is asked for. -/
def complIf (negated : Bool) (s : CharSet) : CharSet := if negated then compl s else s

/-- The set of the characters in one of the ranges. -/
def ofRanges (rs : List (Char × Char)) : CharSet :=
  unionAll (rs.map fun (first, last) => range first last)

/-- Whether the set holds no character of the second half of Latin-1: a set of bytes is allowed in
a search through text only if it holds ASCII alone. -/
def isAscii (s : CharSet) : Bool :=
  (List.range 128).all fun k => !s.contains (Char.ofNat (128 + k))

/-- The ASCII digits. -/
def asciiDigit : CharSet := range '0' '9'

/-- The ASCII blanks. -/
def asciiSpace : CharSet := ofRanges [('\t', '\r'), (' ', ' ')]

/-- The ASCII letters and digits and the low line. -/
def asciiWord : CharSet := ofRanges [('0', '9'), ('A', 'Z'), ('_', '_'), ('a', 'z')]

/-- The decimal digits of all scripts. -/
def digit : CharSet := property (.categories [.nd])

/-- White space. -/
def space : CharSet := property .whitespace

/-- The characters that words are made of. -/
def word : CharSet := property .wordPart

/-- The ASCII sets that have a name between brackets and colons, as in `[[:alpha:]]`. -/
def named? : String → Option CharSet
  | "alnum" => some (ofRanges [('0', '9'), ('A', 'Z'), ('a', 'z')])
  | "alpha" => some (ofRanges [('A', 'Z'), ('a', 'z')])
  | "ascii" => some (range '\x00' '\x7f')
  | "blank" => some (ofRanges [('\t', '\t'), (' ', ' ')])
  | "cntrl" => some (ofRanges [('\x00', '\x1f'), ('\x7f', '\x7f')])
  | "digit" => some asciiDigit
  | "graph" => some (range '!' '~')
  | "lower" => some (range 'a' 'z')
  | "print" => some (range ' ' '~')
  | "punct" =>
    some (ofRanges [('!', '/'), (':', '@'), ('[', (Char.ofNat 0x60)), (Char.ofNat 0x7b, '~')])
  | "space" => some asciiSpace
  | "upper" => some (range 'A' 'Z')
  | "word" => some asciiWord
  | "xdigit" => some (ofRanges [('0', '9'), ('A', 'F'), ('a', 'f')])
  | _ => none

end CharSet

end LineSearch.Regex
