/-
# Searching for the match that was gone to

When a match is accepted the span found last is selected.  If the last wanted condition is a literal
whose case matters, what is selected is this literal, at its first place in the line; and as a query
it is this condition again, which finds the line with the same span.  So a search that begins with
the selection comes back to the match.  The main result is `scan_selectedText_target`.
-/
import LineSearch.Proofs.Query
import LineSearch.Proofs.Scan.Conditions
import LineSearch.Proofs.Scan.OwnLine
import LineSearch.Search

namespace LineSearch

/-! ## The condition of a word -/

/-- The pattern of a condition that is not negated is its word, and so a query of this condition. -/
lemma Query.parse_pattern {query : Text} {p : Predicate} (h : p ∈ parse query)
    (hnegate : p.negate = false) : parse p.pattern = [p] := by
  obtain ⟨word, rfl, hword⟩ := exists_of_mem_parse h
  have hmark : (word.head? == some '!') = false := hnegate
  have hpattern : (Predicate.ofWord word).pattern = word := by simp [Predicate.ofWord, hmark]
  rw [hpattern, parse_word hword.ne_nil hword.isWhitespace]

/-! ## What is selected -/

namespace Document

variable {d : Document}

/-- Within a line the characters from the first column up to the second one are selected. -/
lemma selectedText_of_same_line {line : Nat} (h : line < d.lineCount) (start length : Nat) :
    d.selectedText ⟨⟨line, start⟩, ⟨line, start + length⟩⟩ =
      ((d.line line).drop start).take length := by
  have hbefore : Position.before ⟨line, start + length⟩ ⟨line, start⟩ = false := by
    simp [Position.before]
  have hstart : Selection.start ⟨⟨line, start⟩, ⟨line, start + length⟩⟩ = ⟨line, start⟩ := by
    simp [Selection.start, Position.min, hbefore]
  have hstop : Selection.stop ⟨⟨line, start⟩, ⟨line, start + length⟩⟩ =
      ⟨line, start + length⟩ := by
    simp [Selection.stop, Position.max, hbefore]
  -- one line is selected, and no newline
  have hlast : min line (d.lineCount - 1) + 1 - line = 1 := by omega
  have hnot : ¬ d.lineCount ≤ line := by omega
  simp [selectedText, hstart, hstop, hnot, hlast, Text.join, slice]

section

variable [Regex.Engine]

/-- The span of the last wanted condition stands last. -/
lemma getLast?_spans_of_mem_scan {ps : List Predicate} {p : Predicate}
    (hlast : (ps.filter (!·.negate)).getLast? = some p) {m : LineMatch} (hm : m ∈ d.scan ps) :
    ∃ s, m.spans.getLast? = some s ∧ (Term.compile p).firstMatch (d.line m.line) = some s := by
  obtain ⟨before, hbefore⟩ := List.getLast?_eq_some_iff.mp hlast
  obtain ⟨hp, hnegate⟩ := List.mem_filter.mp (List.mem_of_getLast? hlast)
  obtain ⟨-, hspans⟩ := mem_scan.mp hm
  obtain ⟨hmeets, hspans⟩ := Filter.spansOf_eq_some_iff.mp hspans
  -- the condition is met, and being wanted it has found something
  have hfound := (hmeets _ (Filter.mem_conditions_ofPredicates.mpr ⟨p, hp, rfl⟩)).2
  rw [hnegate] at hfound
  obtain ⟨s, hs⟩ := Option.isSome_iff_exists.mp hfound
  refine ⟨s, ?_, hs⟩
  have hwanted : (Filter.ofPredicates ps).conditions.filter (!·.negate) =
      (before ++ [p]).map fun q => ⟨Term.compile q, q.negate⟩ := by
    rw [← hbefore, Filter.ofPredicates, List.filter_map]
    rfl
  rw [hspans, hwanted, List.map_append, List.filterMap_append]
  simp [hs]

/-- **Searching for the match that was gone to.**  Let the last condition of a query that is not
negated be a literal whose case matters, and take any match of the query in a document.

* The span that stands last is the first place of the pattern in the line, and as long as this.
* If the match is gone to, exactly the pattern is selected.
* As a query the pattern is this one condition.
* What is found for it has a match of the same line with the same span. -/
theorem scan_selectedText_target {query : Text} {p : Predicate}
    (hlast : ((Query.parse query).filter (!·.negate)).getLast? = some p)
    (hregex : p.isRegex = false) (hcase : p.caseSensitive = true) {m : LineMatch}
    (hm : m ∈ d.scan (Query.parse query)) :
    ∃ column, m.spans.getLast? = some ⟨column, p.pattern.length⟩ ∧
      Text.FirstAt p.pattern (d.line m.line) column ∧
      d.selectedText m.target = p.pattern ∧ Query.parse p.pattern = [p] ∧
      ⟨m.line, [⟨column, p.pattern.length⟩]⟩ ∈ d.scan (Query.parse p.pattern) := by
  obtain ⟨s, hs, hfound⟩ := getLast?_spans_of_mem_scan hlast hm
  obtain ⟨column, hfirst, rfl⟩ := (Term.firstMatch_compile_eq_some_iff hregex hcase).mp hfound
  obtain ⟨hp, hnegate⟩ := List.mem_filter.mp (List.mem_of_getLast? hlast)
  have hnegate : p.negate = false := by simpa using hnegate
  have hline : m.line < d.lineCount := (mem_scan.mp hm).1
  have hparse := Query.parse_pattern hp hnegate
  have htarget : m.target = ⟨⟨m.line, column⟩, ⟨m.line, column + p.pattern.length⟩⟩ := by
    simp [LineMatch.target, hs, Span.stop]
  refine ⟨column, hs, hfirst, ?_, hparse, ?_⟩
  · rw [htarget, selectedText_of_same_line hline]
    exact (List.prefix_iff_eq_take.mp hfirst.occurs).symm
  · rw [hparse, mem_scan_singleton hnegate]
    exact ⟨hline, _, hfound, rfl⟩

end

attribute [local instance] Regex.Engine.tables

/-- A negated condition comes after the literal, and there are longer characters and another such
literal in the line. -/
theorem scan_selectedText_target_accents :
    let d : Document := .ofText "one\nééFoo Foo".toList
    let query : Text := "é Foo !one".toList
    let p : Predicate := ⟨"Foo".toList, false, true, false⟩
    let m : LineMatch := ⟨1, [⟨0, 1⟩, ⟨2, 3⟩]⟩
    ((Query.parse query).filter (!·.negate)).getLast? = some p ∧ p.isRegex = false ∧
      p.caseSensitive = true ∧ m ∈ d.scan (Query.parse query) ∧
      ∃ column, m.spans.getLast? = some ⟨column, p.pattern.length⟩ ∧
        Text.FirstAt p.pattern (d.line m.line) column ∧
        d.selectedText m.target = p.pattern ∧ Query.parse p.pattern = [p] ∧
        ⟨m.line, [⟨column, p.pattern.length⟩]⟩ ∈ d.scan (Query.parse p.pattern) := by
  intro d query p m
  have hlast : ((Query.parse query).filter (!·.negate)).getLast? = some p := by decide
  have hm : m ∈ d.scan (Query.parse query) := by decide
  exact ⟨hlast, rfl, rfl, hm, scan_selectedText_target hlast rfl rfl hm⟩

end Document

end LineSearch
