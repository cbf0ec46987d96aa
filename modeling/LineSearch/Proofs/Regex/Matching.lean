/-
# The matches that are found by tables lie inside the text

The table of an expression lists for every place of a text the places where a match from there may
end.  None of these lies before the place or past the end of the text (`EndTable.Inside`).  Each way
to put tables together keeps this, and so it holds of the table of every expression.  The main
result is `Engine.findsInside_tables`: what an expression finds is a stretch of the text.
-/
import LineSearch.Regex.Matching
import Mathlib.Tactic.Common

namespace LineSearch.Regex

namespace EndTable

/-- Every match ends at the place where it begins or after it, and in the text. -/
def Inside (length : Nat) (t : EndTable) : Prop :=
  ∀ i, ∀ j ∈ t.endsFrom i, i ≤ j ∧ j ≤ length

variable {length : Nat} {greedy : Bool} {first second body : EndTable}

lemma mem_of_mem_firstOccurrences {seen : Array Bool} {places : List Nat} {x : Nat}
    (h : x ∈ firstOccurrences seen places) : x ∈ places := by
  induction places generalizing seen with
  | nil => simp [firstOccurrences] at h
  | cons y rest ih =>
    rw [firstOccurrences] at h
    split at h
    · exact List.mem_cons_of_mem y (ih h)
    · rcases List.mem_cons.mp h with rfl | h
      · exact List.mem_cons_self
      · exact List.mem_cons_of_mem y (ih h)

lemma mem_of_mem_distinct {places : List Nat} {x : Nat} (h : x ∈ distinct length places) :
    x ∈ places :=
  mem_of_mem_firstOccurrences h

lemma mem_preferring {i j : Nat} {more : List Nat} :
    j ∈ preferring greedy i more ↔ j = i ∨ j ∈ more := by
  cases greedy <;> simp [preferring, or_comm]

lemma mem_endsFrom_tabulate {f : Nat → List Nat} {i j : Nat} :
    j ∈ (tabulate length f).endsFrom i ↔ i ≤ length ∧ j ∈ f i := by
  by_cases hi : i ≤ length
  · have hlt : i < length + 1 := by omega
    simp [endsFrom, tabulate, Array.getD_eq_getD_getElem?, hi, hlt]
  · have hlt : ¬ i < length + 1 := by omega
    simp [endsFrom, tabulate, Array.getD_eq_getD_getElem?, hi, hlt]

/-! ## Putting tables together -/

lemma inside_tabulate {f : Nat → List Nat}
    (h : ∀ i ≤ length, ∀ j ∈ f i, i ≤ j ∧ j ≤ length) : Inside length (tabulate length f) := by
  intro i j hj
  obtain ⟨hi, hj⟩ := mem_endsFrom_tabulate.mp hj
  exact h i hi j hj

lemma inside_still (length : Nat) : Inside length (still length) := by
  apply inside_tabulate
  intro i hi j hj
  obtain rfl := List.mem_singleton.mp hj
  exact ⟨Nat.le_refl j, hi⟩

/-- After a first part there is still a way to go, or none. -/
lemma Inside.trans (hfirst : Inside length first) (hsecond : Inside length second) {i j : Nat}
    (h : j ∈ (first.endsFrom i).flatMap second.endsFrom) : i ≤ j ∧ j ≤ length := by
  obtain ⟨middle, hmiddle, hj⟩ := List.mem_flatMap.mp h
  have hle := (hfirst i middle hmiddle).1
  have hin := hsecond middle j hj
  exact ⟨by omega, hin.2⟩

lemma Inside.compose (hfirst : Inside length first) (hsecond : Inside length second) :
    Inside length (compose length first second) := by
  apply inside_tabulate
  intro i _ j hj
  exact hfirst.trans hsecond (mem_of_mem_distinct hj)

lemma Inside.orElse (hfirst : Inside length first) (hsecond : Inside length second) :
    Inside length (orElse length first second) := by
  apply inside_tabulate
  intro i _ j hj
  rcases List.mem_append.mp (mem_of_mem_distinct hj) with hj | hj
  · exact hfirst i j hj
  · exact hsecond i j hj

lemma Inside.exactly (hbody : Inside length body) (k : Nat) :
    Inside length (exactly length body k) := by
  induction k with
  | zero => exact inside_still length
  | succ k ih => exact hbody.compose ih

lemma Inside.atMost (hbody : Inside length body) (k : Nat) :
    Inside length (atMost length greedy body k) := by
  induction k with
  | zero => exact inside_still length
  | succ k ih =>
    apply inside_tabulate
    intro i hi j hj
    rcases mem_preferring.mp (mem_of_mem_distinct hj) with rfl | hj
    · exact ⟨Nat.le_refl j, hi⟩
    · exact hbody.trans ih hj

lemma size_anyFromEnd (length : Nat) (greedy : Bool) (body : EndTable) (k : Nat) :
    (anyFromEnd length greedy body k).size = k := by
  induction k with
  | zero => rfl
  | succ k ih => simp [anyFromEnd, ih]

/-- Entry `m` of the table that begins at the end is that of the place `length - m`. -/
lemma Inside.anyFromEnd (hbody : Inside length body) {k m j : Nat}
    (h : j ∈ (anyFromEnd length greedy body k).endsFrom m) : length - m ≤ j ∧ j ≤ length := by
  induction k generalizing m j with
  | zero => simp [EndTable.anyFromEnd, endsFrom] at h
  | succ k ih =>
    have hsize := size_anyFromEnd length greedy body k
    rw [EndTable.anyFromEnd, endsFrom, Array.getD_eq_getD_getElem?, Array.getElem?_push,
      hsize] at h
    by_cases hm : m = k
    · -- the entry that was added last
      simp only [hm, if_true, Option.getD_some] at h
      rcases mem_preferring.mp (mem_of_mem_distinct h) with rfl | h
      · omega
      · obtain ⟨next, hnext, hj⟩ := List.mem_flatMap.mp h
        have hin := hbody _ next hnext
        split at hj
        · obtain rfl := List.mem_singleton.mp hj
          omega
        · have hlater := ih hj
          omega
    · rw [if_neg hm] at h
      apply ih
      rwa [endsFrom, Array.getD_eq_getD_getElem?]

lemma Inside.any (hbody : Inside length body) : Inside length (any length greedy body) := by
  intro i j hj
  have hsize := size_anyFromEnd length greedy body (length + 1)
  rw [EndTable.any, endsFrom, Array.getD_eq_getD_getElem?] at hj
  by_cases hi : i < length + 1
  · rw [Array.getElem?_reverse (by omega), hsize] at hj
    have hin : length - (length + 1 - 1 - i) ≤ j ∧ j ≤ length := by
      apply hbody.anyFromEnd
      rw [endsFrom, Array.getD_eq_getD_getElem?]
      exact hj
    omega
  · have hout : (EndTable.anyFromEnd length greedy body (length + 1)).reverse[i]? = none := by
      rw [Array.getElem?_eq_none_iff, Array.size_reverse, hsize]
      omega
    simp [hout] at hj

end EndTable

namespace Expr

open EndTable

/-- The table of an expression, part by part. -/
lemma inside_ends (text : Array Char) (e : Expr) : Inside text.size (e.ends text) := by
  induction e with
  | empty => exact inside_still text.size
  | assertion a =>
    apply inside_tabulate
    intro i hi j hj
    split at hj
    · obtain rfl := List.mem_singleton.mp hj
      exact ⟨Nat.le_refl j, hi⟩
    · simp at hj
  | chars s =>
    apply inside_tabulate
    intro i _ j hj
    split at hj
    · rename_i hany
      obtain rfl := List.mem_singleton.mp hj
      -- a character was read, so the text goes on after the place
      cases hc : text[i]? with
      | none => simp [hc] at hany
      | some c =>
        obtain ⟨hlt, -⟩ := Array.getElem?_eq_some_iff.mp hc
        exact ⟨Nat.le_succ i, hlt⟩
    · simp at hj
  | seq a b iha ihb => exact iha.compose ihb
  | alt a b iha ihb => exact iha.orElse ihb
  | rounds body least most greedy ih =>
    have hleast := ih.exactly least
    cases most with
    | none => exact hleast.compose ih.any
    | some k => exact hleast.compose (ih.atMost (k - least))

lemma mem_of_firstFrom {table : EndTable} {i count start stop : Nat}
    (h : firstFrom table i count = some (start, stop)) : stop ∈ table.endsFrom start := by
  induction count generalizing i with
  | zero => simp [firstFrom] at h
  | succ count ih =>
    rw [firstFrom] at h
    split at h
    · rename_i first rest hends
      obtain ⟨rfl, rfl⟩ : i = start ∧ first = stop := by simpa using h
      simp [hends]
    · exact ih h

/-- **What an expression finds lies in the text.** -/
lemma find_eq_some {e : Expr} {t : Text} {start stop : Nat} (h : e.find t = some (start, stop)) :
    start ≤ stop ∧ stop ≤ t.length := by
  have hin := e.inside_ends t.toArray start stop (mem_of_firstFrom h)
  simpa using hin

end Expr

/-- The engine that works by tables finds its matches inside the texts. -/
lemma Engine.findsInside_tables : @Engine.FindsInside .tables := by
  intro options body m hm t start stop hfound
  obtain ⟨e, -, rfl⟩ := Option.map_eq_some_iff.mp hm
  exact Expr.find_eq_some hfound

end LineSearch.Regex
