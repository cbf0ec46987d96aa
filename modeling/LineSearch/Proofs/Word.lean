/-
# The word at a position

The word at a position consists of the word characters directly before it and of those directly
after it, as far as they go.  So it is a whole word of the line, one that the position is in or
touches: neither before nor after it stands another word character (`Document.exists_of_wordAt`).
-/
import LineSearch.Text.Whitespace
import LineSearch.Word
import Mathlib.Data.List.DropRight

namespace LineSearch

namespace Text

/-- The text between two others is a whole word: it consists of word characters, and the characters
next to it are none. -/
structure WordBetween (before word after : Text) : Prop where
  ne_nil : word ≠ []
  isWordChar : ∀ c ∈ word, isWordChar c = true
  not_before : ∀ c ∈ before.getLast?, Text.isWordChar c = false
  not_after : ∀ c ∈ after.head?, Text.isWordChar c = false

/-- What is put together around a place is a whole word, unless no word touches the place. -/
lemma wordBetween_wordAround {before after : Text} (hne : wordAround before after ≠ []) :
    WordBetween (before.rdropWhile isWordChar) (wordAround before after)
      (after.dropWhile isWordChar) where
  ne_nil := hne
  isWordChar := by
    intro c hc
    rcases List.mem_append.mp hc with hbefore | hafter
    · exact List.mem_rtakeWhile_imp hbefore
    · exact List.mem_takeWhile_imp hafter
  not_before := by
    intro c hc
    obtain ⟨hrest, rfl⟩ := List.mem_getLast?_eq_getLast hc
    simpa using List.rdropWhile_last_not isWordChar before hrest
  not_after := by
    intro c hc
    have hstop := List.head?_dropWhile_not isWordChar after
    rw [Option.mem_def.mp hc] at hstop
    exact hstop

/-- A word is cut out of what it stands in. -/
lemma append_wordAround (before after : Text) :
    before.rdropWhile isWordChar ++ wordAround before after ++ after.dropWhile isWordChar =
      before ++ after := by
  have hword : wordAround before after =
      before.rtakeWhile isWordChar ++ after.takeWhile isWordChar := rfl
  calc before.rdropWhile isWordChar ++ wordAround before after ++ after.dropWhile isWordChar
      = (before.rdropWhile isWordChar ++ before.rtakeWhile isWordChar) ++
          (after.takeWhile isWordChar ++ after.dropWhile isWordChar) := by
        simp only [hword, List.append_assoc]
    _ = before ++ after := by
        rw [List.rdropWhile_append_rtakeWhile, List.takeWhile_append_dropWhile]

/-- The word around a place ends as far behind it as word characters go on. -/
lemma length_rdropWhile_add (before after : Text) :
    (before.rdropWhile isWordChar).length + (wordAround before after).length =
      before.length + (after.takeWhile isWordChar).length := by
  have hwhole := congrArg List.length (append_wordAround before after)
  have hafter := congrArg List.length
    (List.takeWhile_append_dropWhile (p := isWordChar) (l := after))
  simp only [List.length_append] at hwhole hafter
  omega

/-- The place around which a word is put together is in the word or at one of its ends. -/
lemma length_rdropWhile_le (before after : Text) :
    (before.rdropWhile isWordChar).length ≤ before.length ∧
      before.length ≤
        (before.rdropWhile isWordChar).length + (wordAround before after).length := by
  have hsum := length_rdropWhile_add before after
  have hle : (before.rdropWhile isWordChar).length ≤ before.length :=
    (List.rdropWhile_prefix isWordChar (l := before)).length_le
  omega

/-- The code points of white space. -/
def blankCodes : List Nat :=
  List.range' 9 5 ++ [0x20, 0x85, 0xA0, 0x1680] ++ List.range' 0x2000 11
    ++ [0x2028, 0x2029, 0x202F, 0x205F, 0x3000]

lemma toNat_mem_blankCodes {c : Char} (h : isWhitespace c = true) : c.toNat ∈ blankCodes := by
  simp only [isWhitespace, Bool.or_eq_true, Bool.and_eq_true, decide_eq_true_eq, beq_iff_eq] at h
  simp only [blankCodes, List.mem_append, List.mem_range'_1, List.mem_cons, List.not_mem_nil,
    or_false]
  omega

/-- No blank is a letter, a numeral or the low line. -/
lemma isWordChar_of_isWhitespace {c : Char} (h : isWhitespace c = true) : isWordChar c = false := by
  have hnone : ∀ n ∈ blankCodes, isWordChar (Char.ofNat n) = false := by decide +kernel
  have hc := hnone c.toNat (toNat_mem_blankCodes h)
  rwa [Char.ofNat_toNat] at hc

namespace WordBetween

variable {before word after : Text}

lemma isWhitespace (h : WordBetween before word after) :
    ∀ c ∈ word, Text.isWhitespace c = false := by
  intro c hc
  rw [← Bool.not_eq_true]
  intro hblank
  have hnot := isWordChar_of_isWhitespace hblank
  exact absurd ((h.isWordChar c hc).symm.trans hnot) (by decide)

/-- A word does not begin with a character that is none of a word. -/
lemma head?_ne (h : WordBetween before word after) {c : Char} (hc : Text.isWordChar c = false) :
    word.head? ≠ some c := by
  intro hhead
  have hword := h.isWordChar c (List.mem_of_head? hhead)
  exact absurd (hword.symm.trans hc) (by decide)

end WordBetween

end Text

/-- **The word at a position.**  The position is in its line, and the word is a whole word of this
line, which begins at the position or before it and ends there or behind it. -/
lemma Document.exists_of_wordAt {d : Document} {p : Position} {word : Text}
    (h : d.wordAt p = some word) :
    p.line < d.lineCount ∧ ∃ before after, d.line p.line = before ++ word ++ after ∧
      before.length ≤ p.column ∧ p.column ≤ before.length + word.length ∧
      Text.WordBetween before word after := by
  simp only [wordAt] at h
  split at h
  · simp at h
  rename_i hline
  split at h
  · simp at h
  rename_i hcolumn
  split at h
  · simp at h
  rename_i found hne
  obtain rfl := Option.some.inj h
  have hlength : ((d.line p.line).take p.column).length = p.column := by
    rw [List.length_take]
    omega
  have hle := Text.length_rdropWhile_le ((d.line p.line).take p.column)
    ((d.line p.line).drop p.column)
  rw [hlength] at hle
  refine ⟨by omega, _, _, ?_, hle.1, hle.2, Text.wordBetween_wordAround fun hnil => hne hnil⟩
  rw [Text.append_wordAround, List.take_append_drop]

end LineSearch
