/-
# A word is found in its own line

The word at a position can be searched for as it stands: it is long enough, it is one condition and
neither a negated one nor an expression, and its line is among those that are found.  The span that
is found there begins with the word itself or before it.  This holds also of words that ignore
case, since a word without an upper-case character has no capital sigma, so that it does not matter
whether it is put into lower case as a whole.  The main result is `scan_of_wordAt`.
-/
import LineSearch.Proofs.Scan.IgnoringCase
import LineSearch.Proofs.Scan.Refinement
import LineSearch.Proofs.Text.Columns
import LineSearch.Proofs.Word

namespace LineSearch

/-! ## Words that can be searched for -/

namespace Text

variable {t : Text}

lemma trim_of_forall_not (h : ∀ c ∈ t, isWhitespace c = false) : trim t = t := by
  have hstart : trimStart t = t := by
    rw [trimStart, List.dropWhile_eq_self_iff]
    intro hpos
    simp [h]
  have hend : trimEnd t = t := by
    have hrest : t.reverse.dropWhile isWhitespace = t.reverse := by
      rw [List.dropWhile_eq_self_iff]
      intro hpos
      simp [h]
    rw [trimEnd, hrest, List.reverse_reverse]
  rw [trim, hstart, hend]

/-- A text without an upper-case character has the lower case of its characters. -/
lemma lower_eq_lowerEach_of_forall_not (h : ∀ c ∈ t, isUppercase c = false) :
    lower t = lowerEach t := by
  apply lower_eq_lowerEach
  rintro ⟨before, after, rfl, -⟩
  have hsigma : isUppercase 'Σ' = true := by decide
  have hnot := h 'Σ' (by simp)
  exact absurd (hsigma.symm.trans hnot) (by decide)

end Text

variable {word : Text}

/-- A word is searched for if it is long enough: the placeholder is several words. -/
lemma Query.isSearchable_word (hblank : ∀ c ∈ word, Text.isWhitespace c = false)
    (hlength : minLength ≤ word.length) : isSearchable word = true := by
  have hplaceholder : word ≠ placeholder := by
    rintro rfl
    have hspace := hblank ' ' (by decide)
    exact absurd hspace (by decide)
  simp [isSearchable, Text.trim_of_forall_not hblank, hlength, hplaceholder]

namespace Term

lemma isInvalid_of_firstMatch {t : Term} {line : Text} {s : Span}
    (h : t.firstMatch line = some s) : t.isInvalid = false := by
  cases t with
  | invalid error => simp [firstMatch] at h
  | _ => rfl

/-- A word without an upper-case character has no capital sigma either. -/
lemma caseSensitive_or_lower_eq (word : Text) :
    word.any Text.isUppercase = true ∨ word.lower = word.lowerEach := by
  cases hupper : word.any Text.isUppercase with
  | true => exact Or.inl rfl
  | false =>
    right
    apply Text.lower_eq_lowerEach_of_forall_not
    simpa using hupper

section

variable [Regex.Engine]

/-- The term of a literal whose case matters finds its first place. -/
lemma firstMatch_compile_eq_some_iff {p : Predicate} (hregex : p.isRegex = false)
    (hcase : p.caseSensitive = true) {line : Text} {s : Span} :
    (compile p).firstMatch line = some s ↔
      ∃ column, Text.FirstAt p.pattern line column ∧ s = ⟨column, p.pattern.length⟩ := by
  have hterm : compile p = literal p.pattern true p.pattern.length := by
    simp [compile, hregex, hcase]
  rw [hterm, firstMatch, if_pos rfl, Option.map_eq_some_iff]
  constructor
  · rintro ⟨column, hcolumn, rfl⟩
    exact ⟨column, Text.findExact_eq_some_iff.mp hcolumn, rfl⟩
  · rintro ⟨column, hcolumn, rfl⟩
    exact ⟨column, Text.findExact_eq_some_iff.mpr hcolumn, rfl⟩

/-- A literal finds its pattern where that stands, or something before it, if its case matters or
else its lower case is that of its characters. -/
lemma exists_firstMatch_le_of_literal {p : Predicate} (hregex : p.isRegex = false)
    (hne : p.pattern ≠ [])
    (hcase : p.caseSensitive = true ∨ p.pattern.lower = p.pattern.lowerEach)
    (before after : Text) :
    ∃ column ≤ before.length, (compile p).firstMatch (before ++ p.pattern ++ after) =
      some ⟨column, p.pattern.length⟩ := by
  by_cases hsensitive : p.caseSensitive = true
  · obtain ⟨column, hle, hfound⟩ := Text.exists_findExact_le before p.pattern after
    refine ⟨column, hle, ?_⟩
    rw [firstMatch_compile_eq_some_iff hregex hsensitive]
    exact ⟨column, Text.findExact_eq_some_iff.mp hfound, rfl⟩
  · have hlower : p.pattern.lower = p.pattern.lowerEach := hcase.resolve_left hsensitive
    have hterm : compile p = literal p.pattern.lowerEach false p.pattern.length := by
      simp [compile, hregex, hsensitive, hlower]
    obtain ⟨column, hle, hfound⟩ := Text.exists_findIgnoringCase_le before hne after
    refine ⟨column, hle, ?_⟩
    rw [hterm, firstMatch, if_neg (by decide), hfound]
    rfl

/-- The term of a word finds the word where it stands, or something before it. -/
lemma exists_firstMatch_le (hne : word ≠ []) (hmark : word.head? ≠ some '!')
    (hslash : word.head? ≠ some '/') (before after : Text) :
    ∃ column ≤ before.length, (compile (Predicate.ofWord word)).firstMatch
      (before ++ word ++ after) = some ⟨column, word.length⟩ := by
  rw [Predicate.ofWord_of_head? hmark hslash]
  exact exists_firstMatch_le_of_literal rfl hne (caseSensitive_or_lower_eq word) before after

end

end Term

/-! ## Queries of one condition -/

namespace Document

section

variable [Regex.Engine] {d : Document}

/-- What is found for one condition that is not negated. -/
lemma mem_scan_singleton {p : Predicate} (hnegate : p.negate = false) {m : LineMatch} :
    m ∈ d.scan [p] ↔
      m.line < d.lineCount ∧ ∃ s, (Term.compile p).firstMatch (d.line m.line) = some s ∧
        m.spans = [s] := by
  have hconditions : (Filter.ofPredicates [p]).conditions = [⟨Term.compile p, false⟩] := by
    rw [← hnegate]
    rfl
  rw [mem_scan, hconditions, Filter.spansOf_eq_some_iff]
  cases hfound : (Term.compile p).firstMatch (d.line m.line) with
  | none => simp [Condition.Meets, hfound]
  | some s => simp [Condition.Meets, hfound, Term.isInvalid_of_firstMatch hfound]

/-- **A word is found in its own line.**  Take the word at any position of a document, if it has two
characters at least.  It is long enough to be searched for, and as a query it is one condition,
neither negated nor an expression, with the word as its pattern.  The word begins somewhere in the
line of the position, as a whole word that the position is in or touches; and what is found for the
query has a match of this line, whose only span is as long as the word and begins with it or before
it. -/
theorem scan_of_wordAt {p : Position} {word : Text} (h : d.wordAt p = some word)
    (hlength : 2 ≤ word.length) :
    Query.isSearchable word = true ∧
      (∃ q, Query.parse word = [q] ∧ q.pattern = word ∧ q.negate = false ∧ q.isRegex = false) ∧
      ∃ before after, d.line p.line = before ++ word ++ after ∧ before.length ≤ p.column ∧
        p.column ≤ before.length + word.length ∧ Text.WordBetween before word after ∧
        ∃ column ≤ before.length,
          ⟨p.line, [⟨column, word.length⟩]⟩ ∈ d.scan (Query.parse word) := by
  obtain ⟨hline, before, after, htext, hbefore, hafter, hword⟩ := exists_of_wordAt h
  have hmark : word.head? ≠ some '!' := hword.head?_ne (by decide)
  have hslash : word.head? ≠ some '/' := hword.head?_ne (by decide)
  have hparse := Query.parse_word hword.ne_nil hword.isWhitespace
  have hq := Predicate.ofWord_of_head? hmark hslash
  refine ⟨Query.isSearchable_word hword.isWhitespace hlength, ⟨_, hparse, ?_⟩,
    before, after, htext, hbefore, hafter, hword, ?_⟩
  · rw [hq]
    exact ⟨rfl, rfl, rfl⟩
  · obtain ⟨column, hle, hfound⟩ := Term.exists_firstMatch_le hword.ne_nil hmark hslash before after
    refine ⟨column, hle, ?_⟩
    rw [hparse, mem_scan_singleton (by rw [hq])]
    exact ⟨hline, _, htext ▸ hfound, rfl⟩

end

attribute [local instance] Regex.Engine.tables

/-- A word that begins with a digraph in title case has no upper-case character.  Its lower case is
another text, which is found in the same word in capitals before it. -/
theorem scan_of_wordAt_digraph :
    let d : Document := .ofText "one\nǄEP ǅep".toList
    let word : Text := "ǅep".toList
    d.wordAt ⟨1, 5⟩ = some word ∧ 2 ≤ word.length ∧ Query.isSearchable word = true ∧
      (∃ q, Query.parse word = [q] ∧ q.pattern = word ∧ q.negate = false ∧ q.isRegex = false) ∧
      ∃ before after, d.line 1 = before ++ word ++ after ∧ before.length ≤ 5 ∧
        5 ≤ before.length + word.length ∧ Text.WordBetween before word after ∧
        ∃ column ≤ before.length, ⟨1, [⟨column, word.length⟩]⟩ ∈ d.scan (Query.parse word) := by
  intro d word
  have hword : d.wordAt ⟨1, 5⟩ = some word := by decide +kernel
  have hlength : 2 ≤ word.length := by decide
  exact ⟨hword, hlength, scan_of_wordAt hword hlength⟩

end Document

end LineSearch
