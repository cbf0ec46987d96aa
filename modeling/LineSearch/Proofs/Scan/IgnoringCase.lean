/-
# Words that ignore case

A word of a query without an upper-case character is looked for in lower case.  It is put into lower
case as a whole, but a line is put into lower case character by character, so that the two differ in
a capital sigma at the end of a word: a word that is written with a final sigma is not found in the
same word in capitals (`final_sigma_not_found`).  Nothing else makes a difference.  The main result
is `isSome_firstMatch_lower`.
-/
import LineSearch.Proofs.Text.Finding
import LineSearch.Proofs.Text.Lowercase
import LineSearch.Proofs.Text.Splitting
import LineSearch.Regex.Matching

namespace LineSearch

variable {word : Text}

/-- A word without white space is a query of one condition. -/
lemma Query.parse_word (hne : word ≠ []) (hblank : ∀ c ∈ word, Text.isWhitespace c = false) :
    parse word = [Predicate.ofWord word] := by
  rw [parse, Text.words_of_forall_not hne hblank]
  rfl

/-- A word that begins with neither mark is a condition with the word as its pattern. -/
lemma Predicate.ofWord_of_head? (hmark : word.head? ≠ some '!') (hslash : word.head? ≠ some '/') :
    ofWord word = ⟨word, false, word.any Text.isUppercase, false⟩ := by
  have hmark' : (word.head? == some '!') = false := by simpa using hmark
  have hslash' : (word.head? == some '/') = false := by simpa using hslash
  simp [ofWord, hmark', hslash']

namespace Term

section

variable [Regex.Engine]

/-- The term of a word that is no expression and has no upper-case character. -/
lemma compile_ofWord_lower (hupper : ∀ c ∈ word, Text.isUppercase c = false)
    (hmark : word.head? ≠ some '!') (hslash : word.head? ≠ some '/') :
    compile (Predicate.ofWord word) = literal word.lower false word.length := by
  have hcase : word.any Text.isUppercase = false := by simpa using hupper
  rw [Predicate.ofWord_of_head? hmark hslash, hcase]
  rfl

/-- **Words that ignore case.**  Take a word of a query that has no upper-case character and begins
neither with an exclamation mark nor with a slash.  It is one condition, whose term is found in a
line if and only if the lower case of the word is part of the line with each of its characters in
lower case.  And as long as no capital sigma ends a word of the line, or else the word has no sigma,
this is so if and only if the lower case of the word is part of the lower case of the line. -/
theorem isSome_firstMatch_lower (hne : word ≠ [])
    (hblank : ∀ c ∈ word, Text.isWhitespace c = false)
    (hupper : ∀ c ∈ word, Text.isUppercase c = false) (hmark : word.head? ≠ some '!')
    (hslash : word.head? ≠ some '/') :
    ∃ p, Query.parse word = [p] ∧ ∀ line : Text,
      (((compile p).firstMatch line).isSome = true ↔ word.lower <:+: line.lowerEach) ∧
      (¬ line.HasFinalSigma ∨ ('σ' ∉ word.lower ∧ 'ς' ∉ word.lower) →
        (((compile p).firstMatch line).isSome = true ↔ word.lower <:+: line.lower)) := by
  refine ⟨Predicate.ofWord word, Query.parse_word hne hblank, fun line => ?_⟩
  have hfound : ((compile (Predicate.ofWord word)).firstMatch line).isSome = true ↔
      word.lower <:+: line.lowerEach := by
    rw [compile_ofWord_lower hupper hmark hslash, ← Text.isSome_findIgnoringCase_iff]
    simp [firstMatch]
  refine ⟨hfound, ?_⟩
  rintro (hline | ⟨hsigma, hfinal⟩)
  · rw [hfound, Text.lower_eq_lowerEach hline]
  · rw [hfound, Text.infix_lower_iff hsigma hfinal]

end

attribute [local instance] Regex.Engine.tables

/-- A word without its last letter is found in the word in capitals, although that ends in a
sigma. -/
theorem isSome_firstMatch_lower_street :
    let word : Text := "οδο".toList
    let line : Text := "Η ΟΔΟΣ".toList
    line.HasFinalSigma ∧ ∃ p, Query.parse word = [p] ∧
      (((compile p).firstMatch line).isSome = true ↔ word.lower <:+: line.lower) := by
  intro word line
  have hblank : ∀ c ∈ word, Text.isWhitespace c = false := by
    have hnone : word.any Text.isWhitespace = false := by decide
    simpa using hnone
  have hupper : ∀ c ∈ word, Text.isUppercase c = false := by
    have hnone : word.any Text.isUppercase = false := by decide
    simpa using hnone
  obtain ⟨p, hp, hfound⟩ :=
    isSome_firstMatch_lower (by decide) hblank hupper (by decide) (by decide)
  refine ⟨⟨"Η ΟΔΟ".toList, [], by decide, by decide, by decide⟩, p, hp, ?_⟩
  exact (hfound line).2 (Or.inr (by decide))

/-- A word with a final sigma is not found in the word in capitals, although it is the lower case of
it. -/
theorem final_sigma_not_found :
    let word : Text := "οδος".toList
    let line : Text := "ΟΔΟΣ".toList
    (∀ c ∈ word, Text.isUppercase c = false) ∧ word.head? ≠ some '!' ∧ word.head? ≠ some '/' ∧
      word.lower <:+: line.lower ∧
      ∃ p, Query.parse word = [p] ∧ (compile p).firstMatch line = none := by
  intro word line
  have hupper : ∀ c ∈ word, Text.isUppercase c = false := by
    have hnone : word.any Text.isUppercase = false := by decide
    simpa using hnone
  exact ⟨hupper, by decide, by decide, by decide, Predicate.ofWord word, by decide, by decide⟩

end Term

end LineSearch
