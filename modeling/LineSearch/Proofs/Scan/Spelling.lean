/-
# A literal finds the text it spells

A word of a query that is no expression is found wherever it stands in a line, or something before
it is.  For a literal in general this is not so: one that ignores case is put into lower case as a
whole, and if a capital sigma ends a word of it, it does not even find itself
(`forall_exists_firstMatch_le_iff`).  A word of a query never comes to this, since a capital sigma
in it makes its case matter.  The main result is `matchLine_spelled`.
-/
import LineSearch.Proofs.Scan.OwnLine

namespace LineSearch

/-- **Which literals find what they spell.**  A literal is found in every line that its pattern is
part of, where the pattern stands or before it, if and only if its case matters or no capital sigma
ends a word of the pattern. -/
lemma Term.forall_exists_firstMatch_le_iff [Regex.Engine] {p : Predicate}
    (hregex : p.isRegex = false) (hne : p.pattern ≠ []) :
    (∀ before after : Text, ∃ column ≤ before.length,
      (compile p).firstMatch (before ++ p.pattern ++ after) =
        some ⟨column, p.pattern.length⟩) ↔
      p.caseSensitive = true ∨ ¬ p.pattern.HasFinalSigma := by
  rw [← Text.lower_eq_lowerEach_iff]
  constructor
  · intro h
    by_contra hcase
    rw [not_or] at hcase
    obtain ⟨hsensitive, hlower⟩ := hcase
    have hterm : compile p = literal p.pattern.lower false p.pattern.length := by
      simp [compile, hregex, hsensitive]
    -- it is found in its own pattern, of which it is as long as the lower case
    obtain ⟨column, -, hfound⟩ := h [] []
    have hfound' : (Text.findIgnoringCase p.pattern p.pattern.lower).isSome = true := by
      rw [hterm, firstMatch, if_neg (by decide), List.nil_append, List.append_nil] at hfound
      rw [← Option.isSome_map, hfound]
      rfl
    have hlength : p.pattern.lower.length = p.pattern.lowerEach.length := by
      rw [Text.length_lower, Text.length_lowerEach]
    exact hlower ((Text.isSome_findIgnoringCase_iff.mp hfound').eq_of_length hlength)
  · intro hcase
    exact exists_firstMatch_le_of_literal hregex hne hcase

namespace Filter

section

variable [Regex.Engine]

/-- A line meets a condition that is not negated where its term finds something. -/
lemma matchLine_singleton {p : Predicate} (hnegate : p.negate = false) {line : Text} {s : Span}
    (h : (Term.compile p).firstMatch line = some s) (number : Nat) :
    (ofPredicates [p]).matchLine number line = some ⟨number, [s]⟩ := by
  have hconditions : (ofPredicates [p]).conditions = [⟨Term.compile p, false⟩] := by
    rw [← hnegate]
    rfl
  rw [matchLine_eq_some_iff, hconditions, spansOf_eq_some_iff]
  simp [Condition.Meets, h, Term.isInvalid_of_firstMatch h]

/-- **A literal finds the text it spells.**  Take a word that begins neither with an exclamation
mark nor with a slash.  As a query it is one condition, with the word as its pattern; and every line
that the word stands in has a match, whose only span is as long as the word and begins where the
word does or before. -/
theorem matchLine_spelled {word : Text} (hne : word ≠ [])
    (hblank : ∀ c ∈ word, Text.isWhitespace c = false) (hmark : word.head? ≠ some '!')
    (hslash : word.head? ≠ some '/') :
    ∃ p, Query.parse word = [p] ∧ p.pattern = word ∧ p.isRegex = false ∧ p.negate = false ∧
      ∀ (number : Nat) (before after : Text), ∃ column ≤ before.length,
        (ofPredicates [p]).matchLine number (before ++ word ++ after) =
          some ⟨number, [⟨column, word.length⟩]⟩ := by
  have hword := Predicate.ofWord_of_head? hmark hslash
  refine ⟨_, Query.parse_word hne hblank, ?_⟩
  rw [hword]
  refine ⟨rfl, rfl, rfl, fun number before after => ?_⟩
  have hcase : word.any Text.isUppercase = true ∨ ¬ word.HasFinalSigma := by
    rw [← Text.lower_eq_lowerEach_iff]
    exact Term.caseSensitive_or_lower_eq word
  obtain ⟨column, hle, hfound⟩ :=
    (Term.forall_exists_firstMatch_le_iff (p := ⟨word, false, word.any Text.isUppercase, false⟩)
      rfl hne).mpr hcase before after
  exact ⟨column, hle, matchLine_singleton rfl hfound number⟩

end

attribute [local instance] Regex.Engine.tables

/-- A word with a digraph in title case has no upper-case character.  It is found in a line in which
a dotted capital I stands before it, and before that the word in capitals. -/
theorem matchLine_spelled_digraph :
    let word : Text := "ǅs".toList
    let before : Text := "ǄS \u0130 ".toList
    (word ≠ [] ∧ (∀ c ∈ word, Text.isWhitespace c = false) ∧ word.head? ≠ some '!' ∧
        word.head? ≠ some '/') ∧
      ∃ p, Query.parse word = [p] ∧ ∃ column ≤ before.length,
        (ofPredicates [p]).matchLine 7 (before ++ word ++ ['!']) = some ⟨7, [⟨column, 2⟩]⟩ := by
  intro word before
  have hne : word ≠ [] := by decide
  have hblank : ∀ c ∈ word, Text.isWhitespace c = false := by
    have hnone : word.any Text.isWhitespace = false := by decide
    simpa using hnone
  have hmark : word.head? ≠ some '!' := by decide
  have hslash : word.head? ≠ some '/' := by decide
  obtain ⟨p, hp, -, -, -, hfound⟩ := matchLine_spelled hne hblank hmark hslash
  exact ⟨⟨hne, hblank, hmark, hslash⟩, p, hp, hfound 7 before ['!']⟩

end Filter

/-- No word of a query has this condition: its case would matter. -/
example [Regex.Engine] :
    (Term.compile ⟨"ΟΔΟΣ".toList, false, false, false⟩).firstMatch "ΟΔΟΣ".toList = none := by
  rfl

end LineSearch
