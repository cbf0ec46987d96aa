/-
# The words of a text

Everything about the words of a text follows from one equation: white space divides the words
before it from those after it (`words_append_cons`).  So a longer stretch of white space divides
them in the same way (`words_append_blank_append`), a text without words is all white space
(`words_eq_nil_iff`), and words are read back when they are written with single spaces between them
(`words_join`).
-/
import LineSearch.Proofs.Text.Splitting
import Mathlib.Data.List.TakeWhile

namespace LineSearch.Text

variable {t blank : Text}

/-- A text that is one word: there is something in it, and no white space. -/
structure IsWord (t : Text) : Prop where
  ne_nil : t ≠ []
  isWhitespace : ∀ c ∈ t, isWhitespace c = false

lemma IsWord.of_any (hne : t ≠ []) (h : t.any Text.isWhitespace = false) : t.IsWord :=
  ⟨hne, by simpa using h⟩

lemma IsWord.words (h : t.IsWord) : words t = [t] := words_of_forall_not h.ne_nil h.isWhitespace

lemma isWord_of_mem_words {word : Text} (h : word ∈ words t) : word.IsWord := by
  obtain ⟨hpiece, hne⟩ := List.mem_filter.mp h
  exact ⟨by simpa using hne, not_of_mem_splitWhere hpiece⟩

/-! ## White space -/

lemma words_cons_blank {c : Char} (hc : isWhitespace c = true) (t : Text) :
    words (c :: t) = words t :=
  words_append_cons [] t hc

lemma words_blank_append (h : ∀ c ∈ blank, isWhitespace c = true) (t : Text) :
    words (blank ++ t) = words t := by
  induction blank with
  | nil => rfl
  | cons c rest ih =>
    rw [List.cons_append, words_cons_blank (h c (by simp))]
    exact ih fun d hd => h d (by simp [hd])

/-- White space of any length divides the words before it from those after it. -/
lemma words_append_blank_append (hne : blank ≠ []) (h : ∀ c ∈ blank, isWhitespace c = true)
    (a b : Text) : words (a ++ blank ++ b) = words a ++ words b := by
  obtain ⟨c, rest, rfl⟩ := List.exists_cons_of_ne_nil hne
  have hrest : ∀ d ∈ rest, isWhitespace d = true := fun d hd => h d (by simp [hd])
  rw [List.append_assoc, List.cons_append, words_append_cons a _ (h c (by simp)),
    words_blank_append hrest]

/-- A text has no words if and only if it is all white space. -/
lemma words_eq_nil_iff : words t = [] ↔ ∀ c ∈ t, isWhitespace c = true := by
  constructor
  · intro h
    induction t with
    | nil => simp
    | cons c rest ih =>
      by_cases hc : isWhitespace c = true
      · rw [words_cons_blank hc] at h
        exact List.forall_mem_cons.mpr ⟨hc, ih h⟩
      · -- the piece that the character begins is a word
        obtain ⟨piece, pieces, hpieces⟩ :=
          List.exists_cons_of_ne_nil (splitWhere_ne_nil isWhitespace rest)
        simp [words, splitWhere, hc, hpieces] at h
  · intro h
    have hwords := words_blank_append h []
    rwa [List.append_nil] at hwords

lemma trim_of_blank (h : ∀ c ∈ t, isWhitespace c = true) : trim t = [] := by
  have hstart : trimStart t = [] := List.dropWhile_eq_nil_iff.mpr h
  rw [trim, hstart]
  rfl

/-! ## Words with spaces between them -/

/-- Words that are written with single spaces between them are read back. -/
lemma words_join {ws : List Text} (h : ∀ word ∈ ws, word.IsWord) :
    words (join [' '] ws) = ws := by
  induction ws using join.induct with
  | case1 => rfl
  | case2 word => exact (h word (by simp)).words
  | case3 word next rest ih =>
    have hspace : ∀ c ∈ [' '], isWhitespace c = true := by
      intro c hc
      obtain rfl := List.mem_singleton.mp hc
      decide
    rw [join, words_append_blank_append (by simp) hspace, (h word (by simp)).words,
      ih fun other hother => h other (List.mem_cons_of_mem word hother)]
    rfl

end LineSearch.Text
