/-
# What is seen after a course of painting

A painter is told any number of times, and in any order, to forget everything or to set a bucket to
some ranges.  What counts of a bucket is what it was set to last, if nothing has been forgotten since
(`LastSet`).  Every answer of the store can be told from that alone (`painted_answers`), and in
particular it makes no difference in which order two buckets are set.
-/
import LineSearch.Proofs.Highlight.Store
import Mathlib.Data.List.Induction

namespace LineSearch.Highlight

namespace Paint

/-- The bucket was last set to the ranges: after that it has not been set again, and nothing has been
forgotten. -/
def LastSet (ps : List Paint) (bucket : Nat) (ranges : List Range) : Prop :=
  ∃ before after, ps = before ++ .set bucket ranges :: after ∧
    ∀ p ∈ after, p ≠ .clear ∧ ∀ other, p ≠ .set bucket other

/-- What the bucket was last set to covers the place. -/
def Covered (ps : List Paint) (line column bucket : Nat) : Prop :=
  ∃ ranges, LastSet ps bucket ranges ∧
    ∃ r ∈ ranges, r.line = line ∧ r.start ≤ column ∧ column < r.stop

variable {ps : List Paint} {p : Paint} {bucket : Nat} {ranges : List Range}

lemma not_lastSet_nil : ¬ LastSet [] bucket ranges := by
  rintro ⟨before, after, h, -⟩
  simp at h

/-- One more step sets the bucket, or leaves it as it was set before. -/
lemma lastSet_concat_iff :
    LastSet (ps ++ [p]) bucket ranges ↔
      p = .set bucket ranges ∨
        (LastSet ps bucket ranges ∧ p ≠ .clear ∧ ∀ other, p ≠ .set bucket other) := by
  constructor
  · rintro ⟨before, after, h, hafter⟩
    rcases List.eq_nil_or_concat after with rfl | ⟨after, q, rfl⟩
    · obtain ⟨-, hp⟩ := List.append_inj' h rfl
      exact .inl (List.singleton_inj.mp hp)
    · have hsplit : ps ++ [p] = (before ++ .set bucket ranges :: after) ++ [q] := by
        rw [h]
        simp
      obtain ⟨rfl, hp⟩ := List.append_inj' hsplit rfl
      obtain rfl := List.singleton_inj.mp hp
      exact .inr ⟨⟨before, after, rfl, fun p hp => hafter p (by simp [hp])⟩, hafter p (by simp)⟩
  · rintro (rfl | ⟨⟨before, after, rfl, hafter⟩, hp⟩)
    · exact ⟨ps, [], rfl, by simp⟩
    · refine ⟨before, after ++ [p], by simp, fun q hq => ?_⟩
      rcases List.mem_append.mp hq with hq | hq
      · exact hafter q hq
      · rwa [List.mem_singleton.mp hq]

lemma not_lastSet_concat_clear : ¬ LastSet (ps ++ [.clear]) bucket ranges := by
  rw [lastSet_concat_iff]
  rintro (h | ⟨-, h, -⟩)
  · cases h
  · exact h rfl

lemma lastSet_concat_set_self {given : List Range} :
    LastSet (ps ++ [.set bucket given]) bucket ranges ↔ ranges = given := by
  rw [lastSet_concat_iff]
  constructor
  · rintro (h | ⟨-, -, h⟩)
    · cases h
      rfl
    · exact absurd rfl (h given)
  · rintro rfl
    exact .inl rfl

lemma lastSet_concat_set_of_ne {other : Nat} {given : List Range} (h : bucket ≠ other) :
    LastSet (ps ++ [.set other given]) bucket ranges ↔ LastSet ps bucket ranges := by
  rw [lastSet_concat_iff]
  constructor
  · rintro (heq | ⟨hlast, -⟩)
    · cases heq
      exact absurd rfl h
    · exact hlast
  · intro hlast
    refine .inr ⟨hlast, by simp, fun given' heq => ?_⟩
    cases heq
    exact h rfl

end Paint

namespace Store

open Paint (LastSet Covered)

/-! ## One step -/

lemma length_buckets_set (s : Store) (bucket : Nat) (ranges : List Range) :
    (s.set bucket ranges).buckets.length = max s.buckets.length (bucket + 1) := by
  simp only [set, List.length_set, List.length_append, List.length_replicate]
  omega

/-- Setting a bucket changes it alone; the buckets before it that come into being are empty. -/
lemma getElem?_buckets_set (s : Store) (bucket : Nat) (ranges : List Range) (i : Nat) :
    (s.set bucket ranges).buckets[i]? =
      if i = bucket then some ranges
      else if i < max s.buckets.length (bucket + 1) then some (s.ranges i)
      else none := by
  rw [set, List.getElem?_set, List.getElem?_append, List.getElem?_replicate]
  by_cases hi : i = bucket
  · subst hi
    rw [if_pos rfl, if_pos rfl, if_pos]
    simp only [List.length_append, List.length_replicate]
    omega
  · rw [if_neg (Ne.symm hi), if_neg hi, Store.ranges, List.getD_eq_getElem?_getD]
    by_cases hlt : i < s.buckets.length
    · rw [if_pos hlt, if_pos (by omega), List.getElem?_eq_getElem hlt]
      rfl
    · rw [if_neg hlt, List.getElem?_eq_none (by omega)]
      have hroom : i - s.buckets.length < bucket + 1 - s.buckets.length ↔
          i < max s.buckets.length (bucket + 1) := by omega
      simp only [hroom, Option.getD_none]

lemma ranges_set_self (s : Store) (bucket : Nat) (ranges : List Range) :
    (s.set bucket ranges).ranges bucket = ranges := by
  rw [Store.ranges, List.getD_eq_getElem?_getD, getElem?_buckets_set, if_pos rfl]
  rfl

lemma ranges_set_of_ne (s : Store) {bucket other : Nat} (ranges : List Range) (h : bucket ≠ other) :
    (s.set other ranges).ranges bucket = s.ranges bucket := by
  rw [Store.ranges, List.getD_eq_getElem?_getD, getElem?_buckets_set, if_neg h]
  split
  · rfl
  · next hlt =>
    have hle : s.buckets.length ≤ bucket := by omega
    rw [Store.ranges, List.getD_eq_getElem?_getD, List.getElem?_eq_none hle]

/-- An indexed store is what its buckets are. -/
lemma eq_of_buckets_eq {s t : Store} (hs : s.Indexed) (ht : t.Indexed) (h : s.buckets = t.buckets) :
    s = t := by
  obtain ⟨buckets, byLine⟩ := s
  obtain ⟨buckets', byLine'⟩ := t
  simp only [Indexed] at hs ht h
  rw [hs, ht, h]

/-- **Different buckets can be set in either order.** -/
lemma set_comm (s : Store) {bucket other : Nat} (h : bucket ≠ other) (ranges ranges' : List Range) :
    (s.set bucket ranges).set other ranges' = (s.set other ranges').set bucket ranges := by
  refine eq_of_buckets_eq (indexed_set _ _ _) (indexed_set _ _ _) (List.ext_getElem? fun i => ?_)
  rw [getElem?_buckets_set, getElem?_buckets_set, length_buckets_set, length_buckets_set]
  by_cases hother : i = other
  · subst hother
    have hlt : i < max (max s.buckets.length (i + 1)) (bucket + 1) := by omega
    rw [if_pos rfl, if_neg h.symm, if_pos hlt, ranges_set_self]
  by_cases hbucket : i = bucket
  · subst hbucket
    have hlt : i < max (max s.buckets.length (i + 1)) (other + 1) := by omega
    rw [if_neg hother, if_pos rfl, if_pos hlt, ranges_set_self]
  · rw [if_neg hother, if_neg hbucket, ranges_set_of_ne _ _ hbucket, ranges_set_of_ne _ _ hother]
    have hmax : max (max s.buckets.length (bucket + 1)) (other + 1) =
        max (max s.buckets.length (other + 1)) (bucket + 1) := by omega
    rw [hmax]

/-- An index that ranges are sorted into is empty if it was so before and there are no ranges. -/
lemma isEmpty_foldl_insert (entries : List (Nat × Range))
    (m : Std.HashMap Nat (List (Nat × Range))) :
    (entries.foldl (fun byLine entry =>
        byLine.insert entry.2.line (byLine.getD entry.2.line [] ++ [entry])) m).isEmpty =
      (m.isEmpty && entries.isEmpty) := by
  induction entries generalizing m with
  | nil => simp
  | cons entry rest ih => simp [ih]

lemma isEmpty_iff {s : Store} (h : s.Indexed) : s.isEmpty = true ↔ ∀ b, s.ranges b = [] := by
  have hindex : s.isEmpty = (entriesFrom 0 s.buckets).isEmpty := by
    rw [isEmpty, h, index, isEmpty_foldl_insert]
    simp
  rw [hindex, List.isEmpty_iff]
  constructor
  · intro hnil b
    refine List.eq_nil_iff_forall_not_mem.mpr fun r hr => ?_
    have hmem : (b, r) ∈ entriesFrom 0 s.buckets := mem_entriesFrom.mpr ⟨Nat.zero_le b, hr⟩
    rw [hnil] at hmem
    cases hmem
  · intro hranges
    refine List.eq_nil_iff_forall_not_mem.mpr ?_
    rintro ⟨b, r⟩ hmem
    have hr : r ∈ s.ranges b := (mem_entriesFrom.mp hmem).2
    rw [hranges b] at hr
    cases hr

/-! ## A course of steps -/

/-- The store after a course of painting, which begins with nothing. -/
def painted (ps : List Paint) : Store := ps.foldl paint {}

variable {ps : List Paint} {b : Nat}

lemma painted_concat (ps : List Paint) (p : Paint) : painted (ps ++ [p]) = (painted ps).paint p := by
  simp [painted]

lemma indexed_painted (ps : List Paint) : (painted ps).Indexed := indexed_foldl_paint indexed_empty ps

/-- A bucket holds what it was last set to. -/
lemma ranges_painted_of_lastSet {ranges : List Range} (h : LastSet ps b ranges) :
    (painted ps).ranges b = ranges := by
  induction ps using List.reverseRecOn with
  | nil => exact absurd h Paint.not_lastSet_nil
  | append_singleton ps p ih =>
    rw [painted_concat]
    cases p with
    | clear => exact absurd h Paint.not_lastSet_concat_clear
    | set bucket given =>
      by_cases hb : b = bucket
      · subst hb
        obtain rfl := Paint.lastSet_concat_set_self.mp h
        exact ranges_set_self _ _ _
      · rw [paint, ranges_set_of_ne _ _ hb]
        exact ih ((Paint.lastSet_concat_set_of_ne hb).mp h)

/-- What a bucket holds it was last set to. -/
lemma exists_lastSet_of_ne_nil (h : (painted ps).ranges b ≠ []) :
    LastSet ps b ((painted ps).ranges b) := by
  induction ps using List.reverseRecOn with
  | nil => exact absurd rfl h
  | append_singleton ps p ih =>
    rw [painted_concat] at h ⊢
    cases p with
    | clear => exact absurd rfl h
    | set bucket given =>
      by_cases hb : b = bucket
      · subst hb
        exact Paint.lastSet_concat_set_self.mpr (ranges_set_self _ _ _)
      · rw [paint, ranges_set_of_ne _ _ hb] at h ⊢
        exact (Paint.lastSet_concat_set_of_ne hb).mpr (ih h)

lemma mem_ranges_painted {r : Range} :
    r ∈ (painted ps).ranges b ↔ ∃ ranges, LastSet ps b ranges ∧ r ∈ ranges := by
  constructor
  · intro hr
    exact ⟨_, exists_lastSet_of_ne_nil (List.ne_nil_of_mem hr), hr⟩
  · rintro ⟨ranges, hlast, hr⟩
    rwa [ranges_painted_of_lastSet hlast]

lemma exists_covers_iff {line column : Nat} :
    (∃ r ∈ (painted ps).ranges b, r.covers line column = true) ↔ Covered ps line column b := by
  simp only [mem_ranges_painted, Range.covers_iff, Covered]
  constructor
  · rintro ⟨r, ⟨ranges, hlast, hr⟩, hcovers⟩
    exact ⟨ranges, hlast, r, hr, hcovers⟩
  · rintro ⟨ranges, hlast, r, hr, hcovers⟩
    exact ⟨r, ⟨ranges, hlast, hr⟩, hcovers⟩

/-- **What is seen after a course of painting.**

* A bucket is seen at a place if and only if it is the least one for which what it was last set to
  covers the place.
* Nothing is seen there if and only if there is no such bucket.
* The store is empty if and only if all that buckets were last set to is empty.
* If two different buckets are set one after the other, at any time, their order makes no difference
  then or later. -/
theorem painted_answers (ps : List Paint) :
    (∀ line column b, (painted ps).bucketAt line column = some b ↔
        IsLeast {b | Covered ps line column b} b) ∧
      (∀ line column, (painted ps).bucketAt line column = none ↔ ∀ b, ¬ Covered ps line column b) ∧
      ((painted ps).isEmpty = true ↔ ∀ b ranges, LastSet ps b ranges → ranges = []) ∧
      ∀ b b' ranges ranges' later, b ≠ b' →
        painted (ps ++ .set b ranges :: .set b' ranges' :: later) =
          painted (ps ++ .set b' ranges' :: .set b ranges :: later) := by
  refine ⟨fun line column b => ?_, fun line column => ?_, ?_, ?_⟩
  · rw [bucketAt_eq_some_iff (indexed_painted ps)]
    simp only [exists_covers_iff]
  · rw [bucketAt_eq_none_iff (indexed_painted ps)]
    simp only [exists_covers_iff]
  · rw [isEmpty_iff (indexed_painted ps)]
    constructor
    · intro hempty b ranges hlast
      rw [← ranges_painted_of_lastSet hlast]
      exact hempty b
    · intro hempty b
      by_contra hne
      exact hne (hempty b _ (exists_lastSet_of_ne_nil hne))
  · intro b b' ranges ranges' later hne
    simp only [painted, List.foldl_append, List.foldl_cons, paint]
    rw [set_comm _ hne]

/-- Buckets are set that are far apart, one of them again, and one to nothing. -/
theorem painted_answers_overlapping :
    let ps : List Paint := [.set 5 [⟨0, 0, 9⟩], .set 2 [⟨0, 4, 6⟩, ⟨0, 5, 8⟩], .set 5 [⟨0, 2, 5⟩]]
    (painted ps).bucketAt 0 4 = some 2 ∧ (painted ps).bucketAt 0 8 = none ∧ 7 ≠ 2 ∧
      painted (ps ++ [.set 7 [⟨0, 8, 9⟩], .set 2 []]) =
        painted (ps ++ [.set 2 [], .set 7 [⟨0, 8, 9⟩]]) := by
  intro ps
  refine ⟨by decide +kernel, by decide +kernel, by decide, ?_⟩
  exact (painted_answers ps).2.2.2 7 2 [⟨0, 8, 9⟩] [] [] (by decide)

end Store

end LineSearch.Highlight
