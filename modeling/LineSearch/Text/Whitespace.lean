/-
# White space

The characters with the property White_Space, and what is done with texts by means of it: a text
is cut into its words, and blanks are trimmed off both of its ends.
-/
import LineSearch.Text.Basic

namespace LineSearch.Text

/-- The property White_Space. -/
def isWhitespace (c : Char) : Bool :=
  let n := c.toNat
  (9 ≤ n && n ≤ 13) || n == 0x20 || n == 0x85 || n == 0xA0 || n == 0x1680
    || (0x2000 ≤ n && n ≤ 0x200A) || n == 0x2028 || n == 0x2029 || n == 0x202F || n == 0x205F
    || n == 0x3000

/-- The words of a text: the non-empty pieces between white space. -/
def words (t : Text) : List Text :=
  (t.splitWhere isWhitespace).filter (· ≠ [])

/-- White space around a separator does not make words. -/
theorem words_append_cons (a b : Text) {c : Char} (h : isWhitespace c = true) :
    words (a ++ c :: b) = words a ++ words b := by
  simp [words, splitWhere_append_cons _ _ _ h]

/-- The text without white space at its front. -/
def trimStart (t : Text) : Text := t.dropWhile isWhitespace

/-- The text without white space at its end. -/
def trimEnd (t : Text) : Text := (t.reverse.dropWhile isWhitespace).reverse

/-- The text without white space at either end. -/
def trim (t : Text) : Text := t.trimStart.trimEnd

end LineSearch.Text
