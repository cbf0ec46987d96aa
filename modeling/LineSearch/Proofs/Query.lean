/-
# Queries and lists of conditions

A query can be written down for a list of conditions, and read back.  The conditions of a query are
always found again in this way; and a list of conditions is, if and only if each of them is what its
own word says (`Predicate.Writable`).  White space between words makes no conditions, and only
a query of white space has none.  The main result is `Query.parse_render_correspondence`.
-/
import LineSearch.Proofs.Text.Words
import LineSearch.Query

namespace LineSearch

/-! ## Conditions and their words -/

namespace Predicate

variable {p : Predicate} {word : Text}

/-- The condition is written as one word, and is what this word says. -/
structure Writable (p : Predicate) : Prop where
  isWord : p.render.IsWord
  isRegex_iff : p.isRegex = true ↔ p.pattern.head? = some '/'
  caseSensitive_iff : p.caseSensitive = true ↔ ∃ c ∈ p.render, Text.isUppercase c = true
  /-- Otherwise it would be read as a negated one. -/
  head?_ne : p.negate = false → p.pattern.head? ≠ some '!'

/-- The condition of a word is written as this word. -/
lemma render_ofWord (word : Text) : (ofWord word).render = word := by
  cases word with
  | nil => rfl
  | cons c rest =>
    by_cases hmark : c = '!'
    · simp [render, ofWord, hmark]
    · simp [render, ofWord, hmark]

lemma writable_ofWord (h : word.IsWord) : (ofWord word).Writable where
  isWord := by rwa [render_ofWord]
  isRegex_iff := by simp [ofWord]
  caseSensitive_iff := by
    rw [render_ofWord]
    simp [ofWord]
  head?_ne := by
    intro hnegate
    have hmark : (word.head? == some '!') = false := hnegate
    have hpattern : (ofWord word).pattern = word := by simp [ofWord, hmark]
    rw [hpattern]
    simpa using hmark

/-- The word of a condition says what the condition is. -/
lemma Writable.ofWord_render (h : p.Writable) : ofWord p.render = p := by
  obtain ⟨pattern, isRegex, caseSensitive, negate⟩ := p
  have hregex : (pattern.head? == some '/') = isRegex := by
    rw [Bool.eq_iff_iff, beq_iff_eq]
    exact h.isRegex_iff.symm
  have hcase : (render ⟨pattern, isRegex, caseSensitive, negate⟩).any Text.isUppercase =
      caseSensitive := by
    rw [Bool.eq_iff_iff, List.any_eq_true]
    exact h.caseSensitive_iff.symm
  cases negate with
  | true => simpa [ofWord, render, hregex] using hcase
  | false =>
    have hmark : (pattern.head? == some '!') = false := by simpa using h.head?_ne rfl
    simpa [ofWord, render, hregex, hmark] using hcase

end Predicate

namespace Query

variable {query : Text} {ps : List Predicate}

/-- The query that is written for some conditions, with single spaces between their words. -/
def render (ps : List Predicate) : Text := Text.join [' '] (ps.map Predicate.render)

/-- The conditions of a query are those of its words. -/
lemma exists_of_mem_parse {p : Predicate} (h : p ∈ parse query) :
    ∃ word, p = Predicate.ofWord word ∧ word.IsWord := by
  obtain ⟨word, hword, rfl⟩ := List.mem_map.mp h
  exact ⟨word, rfl, Text.isWord_of_mem_words hword⟩

lemma writable_of_mem_parse {p : Predicate} (h : p ∈ parse query) : p.Writable := by
  obtain ⟨word, rfl, hword⟩ := exists_of_mem_parse h
  exact Predicate.writable_ofWord hword

/-- **Which conditions are read back.** -/
lemma parse_render_iff : parse (render ps) = ps ↔ ∀ p ∈ ps, p.Writable := by
  constructor
  · intro h p hp
    rw [← h] at hp
    exact writable_of_mem_parse hp
  · intro h
    have hwords : ∀ word ∈ ps.map Predicate.render, word.IsWord := by
      intro word hword
      obtain ⟨p, hp, rfl⟩ := List.mem_map.mp hword
      exact (h p hp).isWord
    have hself : ∀ p ∈ ps, (Predicate.ofWord ∘ Predicate.render) p = id p :=
      fun p hp => (h p hp).ofWord_render
    rw [parse, render, Text.words_join hwords, List.map_map, List.map_congr_left hself, List.map_id]

lemma parse_eq_nil_iff : parse query = [] ↔ ∀ c ∈ query, Text.isWhitespace c = true := by
  rw [parse, List.map_eq_nil_iff, Text.words_eq_nil_iff]

/-- White space is not searched for. -/
lemma isSearchable_of_blank (h : ∀ c ∈ query, Text.isWhitespace c = true) :
    isSearchable query = false := by
  rw [isSearchable, Text.trim_of_blank h]
  rfl

/-- **Queries and lists of conditions.**

* The conditions of a query are read back when they are written as a query.
* Any other list of conditions is read back if and only if each of them is written as one word and
  is what this word says.
* Queries with white space between them have the conditions of both, one after the other.
* A query has no conditions if and only if it is all white space; and so every query that is
  searched for has one. -/
theorem parse_render_correspondence :
    (∀ query, parse (render (parse query)) = parse query) ∧
      (∀ ps, parse (render ps) = ps ↔ ∀ p ∈ ps, p.Writable) ∧
      (∀ a blank b : Text, blank ≠ [] → (∀ c ∈ blank, Text.isWhitespace c = true) →
        parse (a ++ blank ++ b) = parse a ++ parse b) ∧
      (∀ query, parse query = [] ↔ ∀ c ∈ query, Text.isWhitespace c = true) ∧
      ∀ query, isSearchable query = true → parse query ≠ [] := by
  refine ⟨fun query => ?_, fun ps => parse_render_iff, fun a blank b hne hblank => ?_,
    fun query => parse_eq_nil_iff, fun query hsearchable hnil => ?_⟩
  · rw [parse_render_iff]
    exact fun p hp => writable_of_mem_parse hp
  · rw [parse, Text.words_append_blank_append hne hblank, List.map_append]
    rfl
  · rw [isSearchable_of_blank (parse_eq_nil_iff.mp hnil)] at hsearchable
    exact absurd hsearchable (by decide)

/-- A mark alone, a mark behind a mark and a negated expression are written with three kinds of
white space between them. -/
theorem parse_render_correspondence_marks :
    let ps : List Predicate := [⟨[], false, false, true⟩, ⟨"!É".toList, false, true, true⟩]
    let blank : Text := ['\t', '\u00a0', '\u2028']
    let regex : Predicate := ⟨"/b/".toList, true, false, true⟩
    (∀ p ∈ ps, p.Writable) ∧ parse (render ps) = ps ∧ render ps = "! !!É".toList ∧
      (blank ≠ [] ∧ ∀ c ∈ blank, Text.isWhitespace c = true) ∧
      parse (render ps ++ blank ++ "!/b/".toList) = ps ++ [regex] ∧
      isSearchable (render ps) = true ∧ parse (render ps) ≠ [] := by
  intro ps blank regex
  obtain ⟨-, hlist, hblank, -, hsearchable⟩ := parse_render_correspondence
  have hwritable : ∀ p ∈ ps, p.Writable := by
    have halone : (Predicate.ofWord ['!']).Writable :=
      Predicate.writable_ofWord (.of_any (by decide) (by decide))
    have hmarks : (Predicate.ofWord "!!É".toList).Writable :=
      Predicate.writable_ofWord (.of_any (by decide) (by decide))
    intro p hp
    rcases List.mem_cons.mp hp with rfl | hp
    · exact halone
    · obtain rfl := List.mem_singleton.mp hp
      exact hmarks
  have hback : parse (render ps) = ps := (hlist ps).mpr hwritable
  have hne : blank ≠ [] := by decide
  have hspace : ∀ c ∈ blank, Text.isWhitespace c = true := by
    have hall : blank.all Text.isWhitespace = true := by decide
    exact List.all_eq_true.mp hall
  have hlong : isSearchable (render ps) = true := by decide
  refine ⟨hwritable, hback, rfl, ⟨hne, hspace⟩, ?_, hlong, hsearchable _ hlong⟩
  rw [hblank _ blank _ hne hspace, hback]
  rfl

end Query

end LineSearch
