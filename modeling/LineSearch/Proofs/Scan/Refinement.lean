/-
# A query with one word more

When a word is added to a query, one more condition is put behind the others.  The lines that were
found are then divided between the word and its negation: where the word is found its span is added
to those of the line, and where it is not found the match stays as it is.  A word that is no valid
expression leaves no line.  The main result is `scan_append_word`.
-/
import LineSearch.Proofs.Scan
import LineSearch.Proofs.Text.Splitting
import LineSearch.Regex.Matching

namespace LineSearch

/-! ## The condition of a word -/

namespace Query

/-- A word behind a query is one more condition. -/
lemma parse_append_word (query : Text) {word : Text} (hne : word ≠ [])
    (h : ∀ c ∈ word, Text.isWhitespace c = false) :
    parse (query ++ ' ' :: word) = parse query ++ [Predicate.ofWord word] := by
  rw [parse, Text.words_append_cons query word (by decide), Text.words_of_forall_not hne h,
    List.map_append]
  rfl

end Query

namespace Predicate

variable {word : Text}

lemma negate_ofWord (h : word.head? ≠ some '!') : (ofWord word).negate = false := by
  simpa [ofWord] using h

/-- Behind an exclamation mark a word has the same pattern and is read in the same way. -/
lemma ofWord_cons_mark (h : word.head? ≠ some '!') :
    ofWord ('!' :: word) = { ofWord word with negate := true } := by
  have hmark : (word.head? == some '!') = false := by simpa using h
  have hupper : Text.isUppercase '!' = false := by decide
  simp [ofWord, hmark, hupper]

end Predicate

/-! ## One condition more -/

lemma Filter.spansOf_append_singleton (cs : List Condition) (c : Condition) (line : Text) :
    spansOf (cs ++ [c]) line =
      (spansOf cs line).bind fun found => (c.spans? line).map fun more => found ++ more := by
  induction cs with
  | nil => cases hc : c.spans? line <;> simp [spansOf, hc]
  | cons b rest ih =>
    rw [List.cons_append, spansOf, spansOf, ih]
    cases b.spans? line with
    | none => rfl
    | some first =>
      cases spansOf rest line with
      | none => rfl
      | some found => cases hc : c.spans? line <;> simp

namespace Document

section

variable [Regex.Engine] {d : Document} {ps : List Predicate} {p : Predicate} {m x : LineMatch}

/-- What is found with one condition more. -/
lemma mem_scan_append_singleton :
    x ∈ d.scan (ps ++ [p]) ↔
      ∃ m ∈ d.scan ps, ∃ more,
        Condition.spans? ⟨Term.compile p, p.negate⟩ (d.line m.line) = some more ∧
          x = ⟨m.line, m.spans ++ more⟩ := by
  have hconditions : (Filter.ofPredicates (ps ++ [p])).conditions =
      (Filter.ofPredicates ps).conditions ++ [⟨Term.compile p, p.negate⟩] := by
    simp [Filter.ofPredicates]
  simp only [mem_scan, hconditions, Filter.spansOf_append_singleton, Option.bind_eq_some_iff,
    Option.map_eq_some_iff]
  constructor
  · rintro ⟨hlt, found, hfound, more, hmore, hspans⟩
    exact ⟨⟨x.line, found⟩, ⟨hlt, hfound⟩, more, hmore, by rw [hspans]⟩
  · rintro ⟨m, ⟨hlt, hfound⟩, more, hmore, rfl⟩
    exact ⟨hlt, m.spans, hfound, more, hmore, rfl⟩

/-- With a wanted condition more, each match that is left has its span behind the others. -/
lemma mem_scan_append_wanted (hnegate : p.negate = false)
    (hvalid : (Term.compile p).isInvalid = false) :
    x ∈ d.scan (ps ++ [p]) ↔
      ∃ m ∈ d.scan ps, ∃ s, (Term.compile p).firstMatch (d.line m.line) = some s ∧
        x = ⟨m.line, m.spans ++ [s]⟩ := by
  simp only [mem_scan_append_singleton, Condition.spans?, hvalid, hnegate, Bool.false_eq_true,
    if_false]
  constructor
  · rintro ⟨m, hm, more, hmore, rfl⟩
    cases hfound : (Term.compile p).firstMatch (d.line m.line) with
    | none => simp [hfound] at hmore
    | some s =>
      obtain rfl : [s] = more := by simpa [hfound] using hmore
      exact ⟨m, hm, s, hfound, rfl⟩
  · rintro ⟨m, hm, s, hfound, rfl⟩
    exact ⟨m, hm, [s], by simp [hfound], rfl⟩

/-- With a negated condition more, the matches of some lines are left, as they are. -/
lemma mem_scan_append_negated (hvalid : (Term.compile p).isInvalid = false) :
    x ∈ d.scan (ps ++ [{ p with negate := true }]) ↔
      x ∈ d.scan ps ∧ (Term.compile p).firstMatch (d.line x.line) = none := by
  have hcompile : Term.compile { p with negate := true } = Term.compile p := rfl
  simp only [mem_scan_append_singleton, Condition.spans?, hcompile, hvalid, Bool.false_eq_true,
    if_false]
  constructor
  · rintro ⟨m, hm, more, hmore, rfl⟩
    cases hfound : (Term.compile p).firstMatch (d.line m.line) with
    | none =>
      obtain rfl : [] = more := by simpa [hfound] using hmore
      exact ⟨by simpa using hm, rfl⟩
    | some s => simp [hfound] at hmore
  · rintro ⟨hx, hfound⟩
    exact ⟨x, hx, [], by simp [hfound], by simp⟩

/-- With an invalid condition more there are no matches, whether it is negated or not. -/
lemma scan_append_invalid (hinvalid : (Term.compile p).isInvalid = true) :
    d.scan (ps ++ [p]) = [] := by
  apply List.eq_nil_iff_forall_not_mem.mpr
  intro x hx
  obtain ⟨m, -, more, hmore, -⟩ := mem_scan_append_singleton.mp hx
  simp [Condition.spans?, hinvalid] at hmore

/-- **A query with one word more.**  Add a word without white space, which does not begin with an
exclamation mark, to any query.  If the word is valid,

* each line that the query found is found either with the word or with its negation, and not with
  both;
* what is found with the word is found without it too, and the span of the word is put behind the
  others;
* what is found with its negation is found without it in the same way.

If the word is no valid expression, nothing is found with it nor with its negation. -/
theorem scan_append_word (d : Document) (query : Text) {word : Text} (hne : word ≠ [])
    (hblank : ∀ c ∈ word, Text.isWhitespace c = false) (hmark : word.head? ≠ some '!') :
    let term := Term.compile (Predicate.ofWord word)
    let found := d.scan (Query.parse query)
    let having := d.scan (Query.parse (query ++ ' ' :: word))
    let lacking := d.scan (Query.parse (query ++ ' ' :: '!' :: word))
    (term.isInvalid = false →
      (∀ m ∈ found, Xor (∃ x ∈ having, x.line = m.line) (∃ x ∈ lacking, x.line = m.line)) ∧
      (∀ x ∈ having, ∃ m ∈ found, ∃ s, term.firstMatch (d.line m.line) = some s ∧
        x = ⟨m.line, m.spans ++ [s]⟩) ∧
      ∀ x ∈ lacking, x ∈ found) ∧
    (term.isInvalid = true → having = [] ∧ lacking = []) := by
  intro term found having lacking
  have hhaving : having = d.scan (Query.parse query ++ [Predicate.ofWord word]) := by
    simp only [having, Query.parse_append_word query hne hblank]
  have hlacking : lacking =
      d.scan (Query.parse query ++ [{ Predicate.ofWord word with negate := true }]) := by
    have hblank' : ∀ c ∈ '!' :: word, Text.isWhitespace c = false :=
      List.forall_mem_cons.mpr ⟨by decide, hblank⟩
    simp only [lacking, Query.parse_append_word query (List.cons_ne_nil '!' word) hblank',
      Predicate.ofWord_cons_mark hmark]
  constructor
  · intro hvalid
    have hwith (x : LineMatch) : x ∈ having ↔ ∃ m ∈ found, ∃ s,
        term.firstMatch (d.line m.line) = some s ∧ x = ⟨m.line, m.spans ++ [s]⟩ := by
      rw [hhaving]
      exact mem_scan_append_wanted (Predicate.negate_ofWord hmark) hvalid
    have hwithout (x : LineMatch) :
        x ∈ lacking ↔ x ∈ found ∧ term.firstMatch (d.line x.line) = none := by
      rw [hlacking]
      exact mem_scan_append_negated hvalid
    refine ⟨fun m hm => ?_, fun x hx => (hwith x).mp hx, fun x hx => ((hwithout x).mp hx).1⟩
    cases hfirst : term.firstMatch (d.line m.line) with
    | some s =>
      -- the word is in the line, so its negation leaves the line out
      refine Or.inl ⟨⟨_, (hwith _).mpr ⟨m, hm, s, hfirst, rfl⟩, rfl⟩, ?_⟩
      rintro ⟨x, hx, hline⟩
      have hnone := ((hwithout x).mp hx).2
      rw [hline, hfirst] at hnone
      exact absurd hnone (by simp)
    | none =>
      refine Or.inr ⟨⟨m, (hwithout m).mpr ⟨hm, hfirst⟩, rfl⟩, ?_⟩
      rintro ⟨x, hx, hline⟩
      obtain ⟨m', -, s, hsome, rfl⟩ := (hwith x).mp hx
      obtain hline : m'.line = m.line := hline
      rw [hline, hfirst] at hsome
      exact absurd hsome (by simp)
  · intro hinvalid
    refine ⟨?_, ?_⟩
    · rw [hhaving]
      exact scan_append_invalid hinvalid
    · rw [hlacking]
      exact scan_append_invalid hinvalid

end

attribute [local instance] Regex.Engine.tables

/-- Of two lines one has a word with a `t` and one has none. -/
theorem scan_append_word_expression :
    let d : Document := .ofText "one two\none\ntwo".toList
    let word : Text := "/t[^x]+/i".toList
    (word ≠ [] ∧ (∀ c ∈ word, Text.isWhitespace c = false) ∧ word.head? ≠ some '!' ∧
        (Term.compile (Predicate.ofWord word)).isInvalid = false) ∧
      ∀ m ∈ d.scan (Query.parse "one".toList),
        Xor (∃ x ∈ d.scan (Query.parse ("one".toList ++ ' ' :: word)), x.line = m.line)
          (∃ x ∈ d.scan (Query.parse ("one".toList ++ ' ' :: '!' :: word)), x.line = m.line) := by
  intro d word
  have hne : word ≠ [] := by decide
  have hblank : ∀ c ∈ word, Text.isWhitespace c = false := by
    have hall : word.all (fun c => !Text.isWhitespace c) = true := by decide
    simpa only [List.all_eq_true, Bool.not_eq_true'] using hall
  have hmark : word.head? ≠ some '!' := by decide
  have hvalid : (Term.compile (Predicate.ofWord word)).isInvalid = false := by decide
  exact ⟨⟨hne, hblank, hmark, hvalid⟩,
    ((scan_append_word d "one".toList hne hblank hmark).1 hvalid).1⟩

end Document

end LineSearch
