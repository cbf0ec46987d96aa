/-
# Conditions as a set

Which lines a scan finds depends only on which conditions there are: neither their order nor their
repetitions count, although the conditions are tried one after the other and the first one that
fails ends the trial.  The order only tells in which order the spans of a match stand.  One condition
that is no valid expression leaves no line, wherever it stands.  The main result is
`scan_of_mem_iff`.
-/
import LineSearch.Proofs.Scan
import LineSearch.Regex.Matching
import Mathlib.Data.List.Perm.Basic

namespace LineSearch

namespace Filter

variable {f g : Filter} {line : Text}

lemma isSome_spansOf_iff {cs : List Condition} :
    (spansOf cs line).isSome = true ↔ ∀ c ∈ cs, c.Meets line := by
  simp [Option.isSome_iff_exists, spansOf_eq_some_iff]

/-- Filters that let the same lines pass find the same lines. -/
lemma map_line_scanFrom {lines : List Text} {number : Nat}
    (h : ∀ line ∈ lines,
      (spansOf f.conditions line).isSome = (spansOf g.conditions line).isSome) :
    (f.scanFrom number lines).map LineMatch.line =
      (g.scanFrom number lines).map LineMatch.line := by
  induction lines generalizing number with
  | nil => rfl
  | cons line rest ih =>
    have hline := h line (by simp)
    have hrest : (f.scanFrom (number + 1) rest).map LineMatch.line =
        (g.scanFrom (number + 1) rest).map LineMatch.line :=
      ih fun line hmem => h line (by simp [hmem])
    rw [scanFrom, scanFrom, matchLine, matchLine]
    cases hf : spansOf f.conditions line with
    | none =>
      have hg : spansOf g.conditions line = none := by simpa [hf] using hline
      simpa [hg] using hrest
    | some spans =>
      obtain ⟨spans', hg⟩ : ∃ spans', spansOf g.conditions line = some spans' := by
        rw [← Option.isSome_iff_exists, ← hline, hf]
        rfl
      simpa [hg] using hrest

/-- The spans of a line stand in another order if the conditions do. -/
lemma perm_of_spansOf {cs cs' : List Condition} {spans spans' : List Span} (h : cs.Perm cs')
    (hspans : spansOf cs line = some spans) (hspans' : spansOf cs' line = some spans') :
    spans.Perm spans' := by
  obtain ⟨-, rfl⟩ := spansOf_eq_some_iff.mp hspans
  obtain ⟨-, rfl⟩ := spansOf_eq_some_iff.mp hspans'
  exact (h.filter _).filterMap _

lemma mem_conditions_ofPredicates [Regex.Engine] {ps : List Predicate} {c : Condition} :
    c ∈ (ofPredicates ps).conditions ↔ ∃ p ∈ ps, ⟨Term.compile p, p.negate⟩ = c := by
  simp [ofPredicates]

end Filter

namespace Document

section

variable [Regex.Engine] {d : Document} {ps qs : List Predicate}

/-- With an invalid condition anywhere there are no matches, whether it is negated or not. -/
lemma scan_eq_nil_of_isInvalid {p : Predicate} (hp : p ∈ ps)
    (hinvalid : (Term.compile p).isInvalid = true) : d.scan ps = [] := by
  rw [List.eq_nil_iff_forall_not_mem]
  intro m hm
  obtain ⟨-, hspans⟩ := mem_scan.mp hm
  have hmeets := (Filter.spansOf_eq_some_iff.mp hspans).1 _
    (Filter.mem_conditions_ofPredicates.mpr ⟨p, hp, rfl⟩)
  exact absurd (hinvalid.symm.trans hmeets.1) (by decide)

/-- **Conditions as a set.**  Let two lists of conditions have the same members, in whatever order
and however often.  In any document

* the same lines are found for both;
* if one list only has another order than the other, so do the spans of the two matches of a line;
* nothing is found if a condition in the lists is no valid expression, wherever it stands and whether
  it is negated or not. -/
theorem scan_of_mem_iff (d : Document) (h : ∀ p, p ∈ ps ↔ p ∈ qs) :
    (d.scan ps).map LineMatch.line = (d.scan qs).map LineMatch.line ∧
      (ps.Perm qs → ∀ x ∈ d.scan ps, ∀ y ∈ d.scan qs, x.line = y.line → x.spans.Perm y.spans) ∧
      ∀ p ∈ ps, (Term.compile p).isInvalid = true → d.scan ps = [] ∧ d.scan qs = [] := by
  refine ⟨?_, fun hperm x hx y hy hline => ?_, fun p hp hinvalid => ?_⟩
  · have hmem (c : Condition) : c ∈ (Filter.ofPredicates ps).conditions ↔
        c ∈ (Filter.ofPredicates qs).conditions := by
      simp only [Filter.mem_conditions_ofPredicates, h]
    apply Filter.map_line_scanFrom
    intro line _
    rw [Bool.eq_iff_iff, Filter.isSome_spansOf_iff, Filter.isSome_spansOf_iff]
    simp only [hmem]
  · obtain ⟨-, hx⟩ := mem_scan.mp hx
    obtain ⟨-, hy⟩ := mem_scan.mp hy
    rw [← hline] at hy
    exact Filter.perm_of_spansOf (hperm.map _) hx hy
  · exact ⟨scan_eq_nil_of_isInvalid hp hinvalid,
      scan_eq_nil_of_isInvalid ((h p).mp hp) hinvalid⟩

end

attribute [local instance] Regex.Engine.tables

/-- The spans of a line in which three conditions find something stand the other way round if the
query is turned round, and a body that is never closed leaves nothing, even behind an exclamation
mark. -/
theorem scan_of_mem_iff_reversed :
    let d : Document := .ofText "one two\ntwo\nthree".toList
    let ps := Query.parse "one !three /t[^x]/ two".toList
    let broken := Query.parse "one !/(/".toList
    (d.scan ps).map LineMatch.line = (d.scan ps.reverse).map LineMatch.line ∧
      [⟨0, 3⟩, ⟨4, 2⟩, ⟨4, 3⟩].Perm [(⟨4, 3⟩ : Span), ⟨4, 2⟩, ⟨0, 3⟩] ∧
      d.scan broken = [] := by
  intro d ps broken
  have hsame : ∀ p, p ∈ ps ↔ p ∈ ps.reverse := fun p => List.mem_reverse.symm
  have hlaw := scan_of_mem_iff d hsame
  have hx : ⟨0, [⟨0, 3⟩, ⟨4, 2⟩, ⟨4, 3⟩]⟩ ∈ d.scan ps := by decide
  have hy : ⟨0, [⟨4, 3⟩, ⟨4, 2⟩, ⟨0, 3⟩]⟩ ∈ d.scan ps.reverse := by decide
  have hspans := hlaw.2.1 ps.reverse_perm.symm _ hx _ hy rfl
  have hbroken : (⟨"/(/".toList, true, false, true⟩ : Predicate) ∈ broken := by decide
  have hself : ∀ p, p ∈ broken ↔ p ∈ broken := fun p => Iff.rfl
  have hnothing := (scan_of_mem_iff d hself).2.2 _ hbroken (by decide)
  exact ⟨hlaw.1, hspans, hnothing.1⟩

end Document

end LineSearch
