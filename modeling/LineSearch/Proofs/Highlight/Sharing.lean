/-
# No span is lost or doubled

Dropping a span into a bucket adds one range to one bucket, and so all buckets together hold as many
ranges as there were spans to paint.  With what each bucket gets this says all about the buckets of
a list of matches; in particular two lists of matches can be shared out one after the other.  The
main result is `assign_shares`.
-/
import LineSearch.Proofs.Highlight.Buckets
import Mathlib.Algebra.Ring.Nat
import Mathlib.Data.List.Basic

namespace LineSearch.Highlight

/-- How many ranges some buckets hold together. -/
def rangeCount (buckets : List (List Range)) : Nat := (buckets.map List.length).sum

/-! ## Counting the ranges -/

lemma rangeCount_replicate (count : Nat) : rangeCount (List.replicate count []) = 0 := by
  simp [rangeCount]

/-- One range more in one bucket is one range more in all. -/
lemma rangeCount_modify {buckets : List (List Range)} {b : Nat} (hb : b < buckets.length)
    (r : Range) : rangeCount (buckets.modify b (· ++ [r])) = rangeCount buckets + 1 := by
  induction buckets generalizing b with
  | nil => exact absurd hb (Nat.not_lt_zero b)
  | cons bucket rest ih =>
    cases b with
    | zero =>
      simp only [rangeCount, List.modify_zero_cons, List.map_cons, List.sum_cons,
        List.length_append, List.length_singleton]
      omega
    | succ b =>
      have hrest := ih (Nat.lt_of_succ_lt_succ hb)
      simp only [rangeCount, List.modify_succ_cons, List.map_cons, List.sum_cons] at hrest ⊢
      omega

/-- As long as there is a bucket, each span that is not empty gets into one. -/
lemma rangeCount_addSpans (line index : Nat) (spans : List Span) {buckets : List (List Range)}
    (hbuckets : 0 < buckets.length) :
    rangeCount (addSpans line index spans buckets) =
      rangeCount buckets + spans.countP (·.length != 0) := by
  induction spans generalizing index buckets with
  | nil => rfl
  | cons s rest ih =>
    rw [addSpans]
    by_cases hs : s.length = 0
    · rw [if_pos hs, ih _ hbuckets, List.countP_cons_of_neg (by simp [hs])]
    · have hplace : index % buckets.length < buckets.length := Nat.mod_lt _ hbuckets
      rw [if_neg hs, ih _ (by simpa using hbuckets), rangeCount_modify hplace,
        List.countP_cons_of_pos (by simpa using hs)]
      omega

lemma rangeCount_assign {count : Nat} (hcount : 0 < count) (matched : List LineMatch) :
    rangeCount (assign matched count) =
      (matched.flatMap LineMatch.spans).countP (·.length != 0) := by
  have hrun : ∀ buckets : List (List Range), 0 < buckets.length →
      rangeCount (matched.foldl (fun buckets m => addSpans m.line 0 m.spans buckets) buckets) =
        rangeCount buckets + (matched.flatMap LineMatch.spans).countP (·.length != 0) := by
    induction matched with
    | nil =>
      intro buckets _
      rfl
    | cons m rest ih =>
      intro buckets hbuckets
      rw [List.foldl_cons, ih _ (by rwa [length_addSpans]), rangeCount_addSpans _ _ _ hbuckets,
        List.flatMap_cons, List.countP_append]
      omega
  rw [assign, hrun _ (by simpa using hcount), rangeCount_replicate, Nat.zero_add]

/-! ## Sharing out -/

/-- Matches can be shared out in two goes. -/
lemma assign_append (matched more : List LineMatch) (count : Nat) :
    assign (matched ++ more) count =
      List.zipWith (· ++ ·) (assign matched count) (assign more count) := by
  apply List.ext_getElem?
  intro b
  rw [List.getElem?_zipWith]
  by_cases hb : b < count
  · rw [getElem?_assign hb, getElem?_assign hb, getElem?_assign hb, List.flatMap_append]
  · have hout (ms : List LineMatch) : (assign ms count)[b]? = none :=
      List.getElem?_eq_none (by rw [length_assign]; omega)
    rw [hout, hout]

/-- **No span is lost or doubled.**  Let matches be shared out among one bucket or more.

* There are as many buckets as were asked for.
* A bucket holds, match by match and span by span, the ranges of exactly those spans that are not
  empty and whose number in their match, counted around, is that of the bucket.
* What more matches add comes behind that in each bucket.
* All buckets together hold as many ranges as there are spans that are not empty. -/
theorem assign_shares {count : Nat} (hcount : 0 < count) (matched : List LineMatch) :
    (assign matched count).length = count ∧
      (∀ b < count, (assign matched count)[b]? =
        some (matched.flatMap fun m =>
          (m.spans.zipIdx.filter fun (s, i) => s.length != 0 && i % count == b).map
            fun (s, _) => ⟨m.line, s.start, s.start + s.length⟩)) ∧
      (∀ more, assign (matched ++ more) count =
        List.zipWith (· ++ ·) (assign matched count) (assign more count)) ∧
      ((assign matched count).map List.length).sum =
        (matched.flatMap LineMatch.spans).countP (·.length != 0) := by
  exact ⟨length_assign matched count, fun b hb => getElem?_assign hb matched,
    fun more => assign_append matched more count, rangeCount_assign hcount matched⟩

/-- Three spans among two buckets: the second span is empty, and the third comes after the first. -/
theorem assign_shares_empty_span :
    let matched : List LineMatch := [⟨7, [⟨0, 3⟩, ⟨4, 0⟩, ⟨9, 1⟩]⟩]
    let more : List LineMatch := [⟨8, [⟨1, 1⟩, ⟨2, 2⟩]⟩]
    0 < 2 ∧ assign matched 2 = [[⟨7, 0, 3⟩, ⟨7, 9, 10⟩], []] ∧
      (assign matched 2).length = 2 ∧
      assign (matched ++ more) 2 = [[⟨7, 0, 3⟩, ⟨7, 9, 10⟩, ⟨8, 1, 2⟩], [⟨8, 2, 4⟩]] ∧
      ((assign matched 2).map List.length).sum = 2 := by
  intro matched more
  have h := assign_shares (by decide : 0 < 2) matched
  exact ⟨by decide, by decide, h.1, (h.2.2.1 more).trans (by decide), h.2.2.2.trans (by decide)⟩

end LineSearch.Highlight
