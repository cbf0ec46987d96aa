/-
# What each bucket gets

`assign` goes through the matches and drops their spans one by one into the buckets.  Here its
result is said bucket by bucket: in the order of the matches, and for each match in the order of its
spans, a bucket gets the spans whose place in their match belongs to it (`getElem?_assign`).
-/
import LineSearch.Highlight.Buckets
import Mathlib.Tactic.Common

namespace LineSearch.Highlight

lemma Range.covers_iff {r : Range} {line column : Nat} :
    r.covers line column = true ↔ r.line = line ∧ r.start ≤ column ∧ column < r.stop := by
  simp [Range.covers, and_assoc]

lemma Range.covers_ofSpan_iff {line line' column : Nat} {s : Span} :
    (Range.ofSpan line' s).covers line column = true ↔
      line' = line ∧ s.start ≤ column ∧ column < s.start + s.length :=
  Range.covers_iff

/-- The ranges that a bucket of `count` ones gets of the spans of a line, the first of which has the
number `index`. -/
def shareFrom (line count bucket index : Nat) (spans : List Span) : List Range :=
  ((spans.zipIdx index).filter fun (s, i) => s.length != 0 && i % count == bucket).map
    fun (s, _) => Range.ofSpan line s

/-- The ranges that a bucket of `count` ones gets of a match. -/
def share (count bucket : Nat) (m : LineMatch) : List Range :=
  shareFrom m.line count bucket 0 m.spans

lemma shareFrom_cons (line count bucket index : Nat) (s : Span) (rest : List Span) :
    shareFrom line count bucket index (s :: rest) =
      (if s.length ≠ 0 ∧ index % count = bucket then [Range.ofSpan line s] else []) ++
        shareFrom line count bucket (index + 1) rest := by
  by_cases h : s.length ≠ 0 ∧ index % count = bucket
  · simp [shareFrom, h]
  · have hb : (s.length != 0 && index % count == bucket) = false := by
      simpa using h
    simp [shareFrom, h, hb]

lemma mem_share {count bucket : Nat} {m : LineMatch} {r : Range} :
    r ∈ share count bucket m ↔
      ∃ i s, m.spans[i]? = some s ∧ s.length ≠ 0 ∧ i % count = bucket ∧
        r = Range.ofSpan m.line s := by
  simp only [share, shareFrom, List.mem_map, List.mem_filter, Prod.exists,
    List.mem_zipIdx_iff_getElem?, Bool.and_eq_true, bne_iff_ne, beq_iff_eq]
  constructor
  · rintro ⟨s, i, ⟨hs, hlen, hi⟩, rfl⟩
    exact ⟨i, s, hs, hlen, hi, rfl⟩
  · rintro ⟨i, s, hs, hlen, hi, rfl⟩
    exact ⟨s, i, ⟨hs, hlen, hi⟩, rfl⟩

/-! ## Dropping spans into buckets -/

lemma length_addSpans (line index : Nat) (spans : List Span) (buckets : List (List Range)) :
    (addSpans line index spans buckets).length = buckets.length := by
  induction spans generalizing index buckets with
  | nil => rfl
  | cons s rest ih =>
    rw [addSpans, ih]
    split <;> simp

lemma getElem?_addSpans (line index b : Nat) (spans : List Span) (buckets : List (List Range)) :
    (addSpans line index spans buckets)[b]? =
      buckets[b]?.map (· ++ shareFrom line buckets.length b index spans) := by
  induction spans generalizing index buckets with
  | nil => simp [addSpans, shareFrom]
  | cons s rest ih =>
    rw [addSpans, ih, shareFrom_cons]
    by_cases hs : s.length = 0
    · simp [hs]
    · rw [if_neg hs, List.length_modify, List.getElem?_modify]
      by_cases hb : index % buckets.length = b
      · simp [hs, hb, Function.comp_def]
      · simp [hb]

lemma length_foldl_addSpans (matched : List LineMatch) (buckets : List (List Range)) :
    (matched.foldl (fun buckets m => addSpans m.line 0 m.spans buckets) buckets).length =
      buckets.length := by
  induction matched generalizing buckets with
  | nil => rfl
  | cons m rest ih => rw [List.foldl_cons, ih, length_addSpans]

lemma getElem?_foldl_addSpans (b : Nat) (matched : List LineMatch) (buckets : List (List Range)) :
    (matched.foldl (fun buckets m => addSpans m.line 0 m.spans buckets) buckets)[b]? =
      buckets[b]?.map (· ++ matched.flatMap (share buckets.length b)) := by
  induction matched generalizing buckets with
  | nil => simp
  | cons m rest ih =>
    rw [List.foldl_cons, ih, length_addSpans, getElem?_addSpans]
    simp [share, Function.comp_def]

/-! ## The buckets of a list of matches -/

lemma length_assign (matched : List LineMatch) (count : Nat) :
    (assign matched count).length = count := by
  rw [assign, length_foldl_addSpans, List.length_replicate]

/-- **What each bucket gets**: its share of the first match, then its share of the second, and so
on. -/
lemma getElem?_assign {b count : Nat} (hb : b < count) (matched : List LineMatch) :
    (assign matched count)[b]? = some (matched.flatMap (share count b)) := by
  rw [assign, getElem?_foldl_addSpans, List.length_replicate]
  simp [hb]

lemma mem_getD_assign {b count : Nat} {matched : List LineMatch} {r : Range} :
    r ∈ (assign matched count).getD b [] ↔
      ∃ m ∈ matched, b < count ∧ r ∈ share count b m := by
  by_cases hb : b < count
  · rw [List.getD_eq_getElem?_getD, getElem?_assign hb]
    simp [hb]
  · rw [List.getD_eq_getElem?_getD, List.getElem?_eq_none (by rw [length_assign]; omega)]
    simp [hb]

end LineSearch.Highlight
