/-
# What a store shows

The index by line is rebuilt from the buckets whenever a bucket is set, so that it always tells the
same as the buckets do (`Store.Indexed`).  The main results are

* `Store.bucketAt_eq_some_iff`: the bucket that is seen at a place is the least one that has a range
  over it;
* `Store.buckets_repaint`: a repaint leaves the buckets that were assigned, and nothing else.
-/
import LineSearch.Highlight.Store
import LineSearch.Proofs.Highlight.Buckets
import Mathlib.Order.Bounds.Basic
import Mathlib.Tactic.Common

namespace LineSearch.Highlight.Store

/-! ## The lowest of some numbers -/

lemma lowest_eq_none_iff {l : List Nat} : lowest l = none ↔ l = [] := by
  cases l with
  | nil => simp [lowest]
  | cons n rest =>
    simp only [lowest, reduceCtorEq, iff_false]
    cases lowest rest <;> simp

lemma lowest_eq_some_iff {l : List Nat} {b : Nat} :
    lowest l = some b ↔ IsLeast {n | n ∈ l} b := by
  induction l generalizing b with
  | nil => simp [lowest, IsLeast]
  | cons n rest ih =>
    simp only [lowest]
    cases h : lowest rest with
    | none =>
      rw [lowest_eq_none_iff] at h
      subst h
      have hset : {m | m ∈ [n]} = {n} := by
        ext m
        simp
      rw [hset, Option.some.injEq]
      constructor
      · rintro rfl
        exact isLeast_singleton
      · intro hb
        exact isLeast_singleton.unique hb
    | some k =>
      have hk : IsLeast {m | m ∈ rest} k := ih.mp h
      have hcons : IsLeast {m | m ∈ n :: rest} (min n k) := by
        have hset : {m | m ∈ n :: rest} = insert n {m | m ∈ rest} := by
          ext m
          simp
        rw [hset]
        exact hk.insert n
      simp only [Option.some.injEq]
      constructor
      · rintro rfl
        exact hcons
      · intro hb
        exact hcons.unique hb

/-! ## The index by line -/

lemma mem_entriesFrom {first b : Nat} {r : Range} {buckets : List (List Range)} :
    (b, r) ∈ entriesFrom first buckets ↔ first ≤ b ∧ r ∈ buckets.getD (b - first) [] := by
  induction buckets generalizing first with
  | nil => simp [entriesFrom]
  | cons ranges rest ih =>
    simp only [entriesFrom, List.mem_append, List.mem_map, Prod.mk.injEq, ih]
    constructor
    · rintro (⟨r', hr', rfl, rfl⟩ | ⟨hle, hr⟩)
      · simpa using hr'
      · have hsub : b - first = (b - (first + 1)) + 1 := by omega
        exact ⟨by omega, by rwa [hsub, List.getD_cons_succ]⟩
    · rintro ⟨hle, hr⟩
      rcases Nat.eq_or_lt_of_le hle with rfl | hlt
      · left
        exact ⟨r, by simpa using hr, rfl, rfl⟩
      · right
        have hsub : b - first = (b - (first + 1)) + 1 := by omega
        rw [hsub, List.getD_cons_succ] at hr
        exact ⟨hlt, hr⟩

/-- Sorting entries into an index by line keeps those of a line in their order. -/
lemma getD_foldl_insert (entries : List (Nat × Range)) (m : Std.HashMap Nat (List (Nat × Range)))
    (line : Nat) :
    (entries.foldl (fun byLine entry =>
        byLine.insert entry.2.line (byLine.getD entry.2.line [] ++ [entry])) m).getD line [] =
      m.getD line [] ++ entries.filter fun entry => entry.2.line == line := by
  induction entries generalizing m with
  | nil => simp
  | cons entry rest ih =>
    rw [List.foldl_cons, ih, Std.HashMap.getD_insert, List.filter_cons]
    by_cases h : entry.2.line = line
    · subst h
      simp
    · simp [h]

lemma getD_index (buckets : List (List Range)) (line : Nat) :
    (index buckets).getD line [] =
      (entriesFrom 0 buckets).filter fun entry => entry.2.line == line := by
  rw [index, getD_foldl_insert]
  simp

/-- The index tells the same as the buckets. -/
def Indexed (s : Store) : Prop := s.byLine = index s.buckets

lemma indexed_empty : Indexed {} := rfl

lemma indexed_set (s : Store) (bucket : Nat) (ranges : List Range) :
    (s.set bucket ranges).Indexed := rfl

/-- The buckets with a range over the place, as the index gives them. -/
def bucketsAt (s : Store) (line column : Nat) : List Nat :=
  ((s.byLine.getD line []).filter fun (_, r) => r.covers line column).map Prod.fst

lemma mem_bucketsAt {s : Store} (h : s.Indexed) {line column b : Nat} :
    b ∈ s.bucketsAt line column ↔ ∃ r ∈ s.ranges b, r.covers line column = true := by
  rw [bucketsAt, h, getD_index]
  simp only [List.mem_map, List.mem_filter, Prod.exists, exists_and_right, exists_eq_right]
  constructor
  · rintro ⟨r, ⟨hr, -⟩, hcov⟩
    exact ⟨r, by simpa [ranges] using (mem_entriesFrom.mp hr).2, hcov⟩
  · rintro ⟨r, hr, hcov⟩
    have hline : (r.line == line) = true := beq_iff_eq.mpr (Range.covers_iff.mp hcov).1
    exact ⟨r, ⟨mem_entriesFrom.mpr ⟨Nat.zero_le b, by simpa [ranges] using hr⟩, hline⟩, hcov⟩

/-- **What is seen.**  At a place the least bucket is seen among those with a range over it. -/
lemma bucketAt_eq_some_iff {s : Store} (h : s.Indexed) {line column b : Nat} :
    s.bucketAt line column = some b ↔
      IsLeast {b | ∃ r ∈ s.ranges b, r.covers line column = true} b := by
  simp only [← mem_bucketsAt h]
  exact lowest_eq_some_iff

lemma bucketAt_eq_none_iff {s : Store} (h : s.Indexed) {line column : Nat} :
    s.bucketAt line column = none ↔
      ∀ b, ¬∃ r ∈ s.ranges b, r.covers line column = true := by
  simp only [← mem_bucketsAt h, ← List.eq_nil_iff_forall_not_mem]
  exact lowest_eq_none_iff

/-! ## Painting -/

/-- Setting the first bucket that is not there yet adds it behind the others. -/
lemma buckets_set_length (s : Store) (ranges : List Range) :
    (s.set s.buckets.length ranges).buckets = s.buckets ++ [ranges] := by
  simp [set, List.set_append_right]

/-- Setting one bucket after the other, beginning with the first that is not there yet. -/
lemma buckets_foldl_set (s : Store) (given : List (List Range)) :
    ((given.mapIdx fun i ranges => Paint.set (s.buckets.length + i) ranges).foldl paint s).buckets =
      s.buckets ++ given := by
  induction given generalizing s with
  | nil => simp
  | cons ranges rest ih =>
    have hlen : (s.set s.buckets.length ranges).buckets.length = s.buckets.length + 1 := by
      simp [buckets_set_length]
    have hrest := ih (s.set s.buckets.length ranges)
    rw [hlen, buckets_set_length] at hrest
    rw [List.mapIdx_cons, List.foldl_cons]
    simpa [paint, Nat.add_assoc, Nat.add_comm 1] using hrest

lemma indexed_paint (s : Store) (p : Paint) : (s.paint p).Indexed := by
  cases p with
  | clear => exact indexed_empty
  | set bucket ranges => exact indexed_set s bucket ranges

lemma indexed_foldl_paint {s : Store} (h : s.Indexed) (ps : List Paint) :
    (ps.foldl paint s).Indexed := by
  induction ps generalizing s with
  | nil => exact h
  | cons p ps ih => exact ih (indexed_paint s p)

/-- What is repainted does not depend on what was painted before. -/
lemma foldl_paint_repaint (palette : Palette) (matched : List LineMatch) (s other : Store) :
    (palette.repaint matched).foldl paint s = (palette.repaint matched).foldl paint other := rfl

lemma indexed_repaint (palette : Palette) (matched : List LineMatch) (s : Store) :
    ((palette.repaint matched).foldl paint s).Indexed :=
  indexed_foldl_paint (s := {}) indexed_empty _

/-- **What a repaint shows.**  The buckets of a repainted store are those that were assigned. -/
lemma buckets_repaint (palette : Palette) (matched : List LineMatch) (s : Store) :
    ((palette.repaint matched).foldl paint s).buckets = assign matched palette.buckets := by
  have h := buckets_foldl_set {} (assign matched palette.buckets)
  simpa [Palette.repaint, paint] using h

end LineSearch.Highlight.Store
