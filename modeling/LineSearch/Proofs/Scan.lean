/-
# Which lines a scan finds

A line is found if and only if it meets every condition (`Condition.Meets`), and the spans of its
match are those that the conditions that are not negated find in it, in their order.  Each line
gives one match at most, and the matches stand in the order of the lines.
-/
import LineSearch.Filter
import Mathlib.Tactic.Common

namespace LineSearch

/-- The line meets the condition: this is a valid one, and it is found unless it must not be. -/
def Condition.Meets (c : Condition) (line : Text) : Prop :=
  c.term.isInvalid = false ∧ (c.term.firstMatch line).isSome = !c.negate

instance (c : Condition) (line : Text) : Decidable (c.Meets line) :=
  inferInstanceAs (Decidable (_ ∧ _))

/-- The span that a condition finds in a line that meets it; a negated one finds none. -/
lemma Condition.spans?_eq_some_iff {c : Condition} {line : Text} {spans : List Span} :
    c.spans? line = some spans ↔
      c.Meets line ∧
        spans = if c.negate then [] else (c.term.firstMatch line).toList := by
  unfold Condition.spans? Condition.Meets
  cases hinvalid : c.term.isInvalid with
  | true => simp
  | false =>
    cases hfound : c.term.firstMatch line <;> cases hnegate : c.negate <;> simp [eq_comm]

namespace Filter

/-- The spans that the conditions find in a line that meets all of them. -/
lemma spansOf_eq_some_iff {cs : List Condition} {line : Text} {spans : List Span} :
    spansOf cs line = some spans ↔
      (∀ c ∈ cs, c.Meets line) ∧
        spans = (cs.filter (!·.negate)).filterMap (·.term.firstMatch line) := by
  induction cs generalizing spans with
  | nil => simp [spansOf, eq_comm]
  | cons c rest ih =>
    have hcons : spansOf (c :: rest) line = some spans ↔
        ∃ found more, c.spans? line = some found ∧ spansOf rest line = some more ∧
          found ++ more = spans := by
      simp [spansOf, Option.bind_eq_some_iff]
    rw [hcons]
    simp only [Condition.spans?_eq_some_iff, ih, List.forall_mem_cons]
    constructor
    · rintro ⟨found, more, ⟨hc, rfl⟩, ⟨hrest, rfl⟩, rfl⟩
      refine ⟨⟨hc, hrest⟩, ?_⟩
      cases hnegate : c.negate with
      | true => simp [hnegate]
      | false => cases hfound : c.term.firstMatch line <;> simp [hnegate, hfound]
    · rintro ⟨⟨hc, hrest⟩, rfl⟩
      refine ⟨_, _, ⟨hc, rfl⟩, ⟨hrest, rfl⟩, ?_⟩
      cases hnegate : c.negate with
      | true => simp [hnegate]
      | false => cases hfound : c.term.firstMatch line <;> simp [hnegate, hfound]

/-- In a line that meets all conditions, the place of a span among all spans is the place of its
condition among those that are not negated. -/
lemma getElem?_spans {cs : List Condition} {line : Text} (h : ∀ c ∈ cs, c.Meets line) (i : Nat) :
    ((cs.filter (!·.negate)).filterMap (·.term.firstMatch line))[i]? =
      (cs.filter (!·.negate))[i]?.bind (·.term.firstMatch line) := by
  have hfound : ∀ c ∈ cs.filter (!·.negate), (c.term.firstMatch line).isSome = true := by
    intro c hc
    obtain ⟨hmem, hnegate⟩ := List.mem_filter.mp hc
    rw [(h c hmem).2, hnegate]
  generalize cs.filter (!·.negate) = wanted at hfound
  induction wanted generalizing i with
  | nil => simp
  | cons c rest ih =>
    obtain ⟨span, hspan⟩ := Option.isSome_iff_exists.mp (hfound c (by simp))
    rw [List.filterMap_cons, hspan]
    cases i with
    | zero => simp [hspan]
    | succ i => simpa using ih i fun c' hc' => hfound c' (by simp [hc'])

/-! ## Scanning -/

lemma matchLine_eq_some_iff {f : Filter} {number : Nat} {line : Text} {m : LineMatch} :
    f.matchLine number line = some m ↔
      m.line = number ∧ spansOf f.conditions line = some m.spans := by
  obtain ⟨k, spans⟩ := m
  simp only [matchLine, Option.map_eq_some_iff, LineMatch.mk.injEq]
  constructor
  · rintro ⟨found, hfound, rfl, rfl⟩
    exact ⟨rfl, hfound⟩
  · rintro ⟨rfl, hfound⟩
    exact ⟨spans, hfound, rfl, rfl⟩

lemma mem_scanFrom_cons {f : Filter} {number : Nat} {line : Text} {rest : List Text}
    {m : LineMatch} :
    m ∈ f.scanFrom number (line :: rest) ↔
      f.matchLine number line = some m ∨ m ∈ f.scanFrom (number + 1) rest := by
  rw [scanFrom]
  cases f.matchLine number line with
  | none => simp
  | some found => simp [eq_comm]

lemma mem_scanFrom {f : Filter} {number : Nat} {lines : List Text} {m : LineMatch} :
    m ∈ f.scanFrom number lines ↔
      ∃ i line, lines[i]? = some line ∧ m.line = number + i ∧
        spansOf f.conditions line = some m.spans := by
  induction lines generalizing number with
  | nil => simp [scanFrom]
  | cons line rest ih =>
    rw [mem_scanFrom_cons, matchLine_eq_some_iff, ih]
    constructor
    · rintro (⟨hline, hspans⟩ | ⟨i, line', hi, hline, hspans⟩)
      · exact ⟨0, line, rfl, hline, hspans⟩
      · exact ⟨i + 1, line', hi, by omega, hspans⟩
    · rintro ⟨i, line', hi, hline, hspans⟩
      cases i with
      | zero =>
        obtain rfl : line = line' := by simpa using hi
        exact Or.inl ⟨hline, hspans⟩
      | succ i => exact Or.inr ⟨i, line', hi, by omega, hspans⟩

end Filter

/-- **What a scan finds.**  A match is found if and only if its line is one of the document that
meets every condition, and its spans are what the conditions find in that line. -/
lemma Document.mem_scan [Regex.Engine] {d : Document} {ps : List Predicate} {m : LineMatch} :
    m ∈ d.scan ps ↔
      m.line < d.lineCount ∧
        Filter.spansOf (Filter.ofPredicates ps).conditions (d.line m.line) = some m.spans := by
  rw [scan, Filter.scan, Filter.mem_scanFrom]
  simp only [Nat.zero_add, line, lineCount, List.getD_eq_getElem?_getD]
  constructor
  · rintro ⟨i, line, hi, rfl, hspans⟩
    obtain ⟨hlt, -⟩ := List.getElem?_eq_some_iff.mp hi
    exact ⟨hlt, by simpa [hi] using hspans⟩
  · rintro ⟨hlt, hspans⟩
    refine ⟨m.line, d.lines[m.line], List.getElem?_eq_getElem hlt, rfl, ?_⟩
    simpa [List.getElem?_eq_getElem hlt] using hspans

end LineSearch
