/-
# Where the spans of a match lie

A span that a regular expression finds lies in its line if the engine finds its matches inside the
texts, and so does that of a literal which tells upper and lower case apart.  A literal that ignores
case is found in the lower case of the line, but its span has the length of the pattern as it was
typed: where a dotted capital I stands for two characters of the pattern, the span reaches past the
end of the line (`span_beyond_line`).  It never reaches further than that.  The main result is
`span_stop_le`.
-/
import LineSearch.Proofs.Regex.Matching
import LineSearch.Proofs.Scan
import LineSearch.Proofs.Text.Finding

namespace LineSearch

namespace Term

variable {line : Text} {s : Span}

/-- A span of an expression lies in the line if its match does. -/
lemma stop_le_of_regex {m : Regex.Matcher} {sticky : Bool}
    (hinside : ∀ start stop, m.find line = some (start, stop) → start ≤ stop ∧ stop ≤ line.length)
    (h : (regex m sticky).firstMatch line = some s) : s.stop ≤ line.length := by
  rw [firstMatch] at h
  cases hfound : m.find line with
  | none => simp [hfound] at h
  | some found =>
    obtain ⟨start, stop⟩ := found
    have hin := hinside start stop hfound
    simp only [hfound] at h
    split at h
    · simp at h
    · obtain rfl := Option.some.inj h
      simp only [Span.stop]
      omega

/-- A span of a literal whose case matters lies in the line. -/
lemma stop_le_of_literal {pattern : Text}
    (h : (literal pattern true pattern.length).firstMatch line = some s) :
    s.stop ≤ line.length := by
  simp only [firstMatch, if_true] at h
  obtain ⟨start, hstart, rfl⟩ := Option.map_eq_some_iff.mp h
  exact Text.findExact_add_length_le hstart

/-- A span of a literal whose case does not matter is not longer than the pattern in lower case. -/
lemma stop_le_of_literal_lower {pattern : Text}
    (h : (literal pattern.lower false pattern.length).firstMatch line = some s) :
    s.stop ≤ line.length + (line.drop s.start).count '\u0130' := by
  simp only [firstMatch, Bool.false_eq_true, if_false] at h
  obtain ⟨start, hstart, rfl⟩ := Option.map_eq_some_iff.mp h
  have hle := (Text.findIgnoringCase_eq_some hstart).2
  rw [Text.length_lower] at hle
  simp only [Span.stop]
  omega

/-- The span that the term of a condition finds, whatever the condition is. -/
lemma stop_le_of_compile [Regex.Engine] (hinside : Regex.Engine.FindsInside) {p : Predicate}
    (h : (compile p).firstMatch line = some s) :
    s.stop ≤ line.length + (line.drop s.start).count '\u0130' := by
  cases hregex : p.isRegex with
  | true =>
    simp only [compile, hregex, if_true] at h
    split at h
    · rw [ofRegexLiteral] at h
      split at h
      · rename_i m hm
        have hle := stop_le_of_regex (hinside _ _ m hm line) h
        omega
      · simp [firstMatch] at h
    · simp [firstMatch] at h
  | false =>
    cases hcase : p.caseSensitive with
    | true =>
      simp only [compile, hregex, hcase, Bool.false_eq_true, if_false, if_true] at h
      have hle := stop_le_of_literal h
      omega
    | false =>
      simp only [compile, hregex, hcase, Bool.false_eq_true, if_false] at h
      exact stop_le_of_literal_lower h

end Term

namespace Document

section

variable [Regex.Engine] {d : Document}

/-- Every span of a match is what a condition finds in the line. -/
lemma exists_firstMatch_of_mem_scan {ps : List Predicate} {m : LineMatch} (hm : m ∈ d.scan ps)
    {s : Span} (hs : s ∈ m.spans) :
    ∃ p ∈ ps, (Term.compile p).firstMatch (d.line m.line) = some s := by
  obtain ⟨-, hspans⟩ := mem_scan.mp hm
  obtain ⟨-, hspans⟩ := Filter.spansOf_eq_some_iff.mp hspans
  rw [hspans] at hs
  obtain ⟨c, hc, hfound⟩ := List.mem_filterMap.mp hs
  obtain ⟨p, hp, rfl⟩ := List.mem_map.mp (List.mem_filter.mp hc).1
  exact ⟨p, hp, hfound⟩

/-- **Where the spans of a match lie.**  Let the engine find its matches inside the texts.  In any
document and for any query, a span of a match reaches past the end of its line at most by the number
of dotted capital I's in the line from the beginning of the span on.  So it lies in its line if
there are none. -/
theorem span_stop_le (hinside : Regex.Engine.FindsInside) (query : Text) {m : LineMatch}
    (hm : m ∈ d.scan (Query.parse query)) {s : Span} (hs : s ∈ m.spans) :
    s.start + s.length ≤
        (d.line m.line).length + ((d.line m.line).drop s.start).count '\u0130' ∧
      ('\u0130' ∉ (d.line m.line).drop s.start → s.start + s.length ≤ (d.line m.line).length) := by
  obtain ⟨p, -, hfound⟩ := exists_firstMatch_of_mem_scan hm hs
  have hle : s.start + s.length ≤
      (d.line m.line).length + ((d.line m.line).drop s.start).count '\u0130' :=
    Term.stop_le_of_compile hinside hfound
  refine ⟨hle, fun hnone => ?_⟩
  rwa [List.count_eq_zero.mpr hnone] at hle

end

attribute [local instance] Regex.Engine.tables

/-- The span that is found in a dotted capital I behind another letter is one character longer than
the rest of the line. -/
theorem span_stop_le_dotted :
    let d : Document := .ofText ['a', '\u0130']
    let query : Text := ['i', '\u0307']
    Regex.Engine.FindsInside ∧ (⟨0, [⟨1, 2⟩]⟩ : LineMatch) ∈ d.scan (Query.parse query) ∧
      1 + 2 ≤ (d.line 0).length + ((d.line 0).drop 1).count '\u0130' := by
  intro d query
  have hinside := Regex.Engine.findsInside_tables
  have hmem : (⟨0, [⟨1, 2⟩]⟩ : LineMatch) ∈ d.scan (Query.parse query) := by decide
  exact ⟨hinside, hmem, (span_stop_le hinside query hmem (List.mem_singleton.mpr rfl)).1⟩

/-- The two characters that a dotted capital I stands for reach past the end of the line. -/
theorem span_beyond_line :
    let d : Document := .ofText ['\u0130']
    let query : Text := ['i', '\u0307']
    (⟨0, [⟨0, 2⟩]⟩ : LineMatch) ∈ d.scan (Query.parse query) ∧
      ¬ 0 + 2 ≤ (d.line 0).length := by
  decide

end Document

end LineSearch
