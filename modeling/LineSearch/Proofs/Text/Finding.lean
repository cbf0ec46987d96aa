/-
# Where a text is found in a line

An exact search finds a stretch of the line.  A search that ignores case goes through the lower case
of the line, which is longer by one character for every dotted capital I: so what it finds may seem
to reach past the end of the line, but not further than there are such characters
(`findIgnoringCase_eq_some`).
-/
import LineSearch.Term
import Mathlib.Tactic.Common

namespace LineSearch.Text

/-! ## The length of a lower case -/

lemma length_lowerChar (c : Char) : (lowerChar c).length = if c = '\u0130' then 2 else 1 := by
  by_cases hc : c = '\u0130'
  · simp [lowerChar, hc]
  · have hone : (lowerChar c).length = 1 := by
      simp only [lowerChar, beq_iff_eq, hc, if_false]
      split <;> rfl
    rw [hone, if_neg hc]

lemma lowerEach_cons (c : Char) (t : Text) :
    lowerEach (c :: t) = lowerChar c ++ lowerEach t := rfl

lemma length_lowerEach (t : Text) : (lowerEach t).length = t.length + t.count '\u0130' := by
  induction t with
  | nil => rfl
  | cons c rest ih =>
    rw [lowerEach_cons, List.length_append, ih, length_lowerChar, List.count_cons, List.length_cons]
    by_cases hc : c = '\u0130'
    · simp only [hc, if_true, beq_self_eq_true]
      omega
    · simp only [hc, if_false, beq_iff_eq]
      omega

lemma length_lowerAfter (before t : Text) :
    (lowerAfter before t).length = t.length + t.count '\u0130' := by
  induction t generalizing before with
  | nil => rfl
  | cons c rest ih =>
    rw [lowerAfter, List.length_append, ih, List.count_cons, List.length_cons]
    by_cases hsigma : c = 'Σ'
    · -- each of the two small sigmas is one character
      have hone : (if nextIsCased before && !nextIsCased rest then ['ς'] else ['σ']).length = 1 := by
        split <;> rfl
      simp only [hsigma, beq_self_eq_true, if_true, hone]
      simp only [beq_iff_eq, show ¬ 'Σ' = '\u0130' by decide, if_false]
      omega
    · simp only [beq_iff_eq, hsigma, if_false, length_lowerChar]
      split <;> omega

/-- The lower case of a text has one more character for every dotted capital I. -/
lemma length_lower (t : Text) : (lower t).length = t.length + t.count '\u0130' :=
  length_lowerAfter [] t

/-! ## Columns of the lower case -/

lemma map_fst_lowerWithColumns (column : Nat) (line : Text) :
    (lowerWithColumns column line).map Prod.fst = lowerEach line := by
  induction line generalizing column with
  | nil => rfl
  | cons c rest ih =>
    rw [lowerWithColumns, List.map_append, ih]
    simp [lowerEach, Function.comp_def]

/-- The lower case of what stands before the column ends before the place. -/
lemma getElem?_lowerWithColumns {column place col : Nat} {line : Text} {c : Char}
    (h : (lowerWithColumns column line)[place]? = some (c, col)) :
    ∃ k < line.length, col = column + k ∧ (lowerEach (line.take k)).length ≤ place := by
  induction line generalizing column place with
  | nil => simp [lowerWithColumns] at h
  | cons d rest ih =>
    rw [lowerWithColumns] at h
    by_cases hplace : place < (lowerChar d).length
    · rw [List.getElem?_append_left (by simpa using hplace), List.getElem?_map] at h
      obtain ⟨e, -, he⟩ := Option.map_eq_some_iff.mp h
      obtain ⟨-, rfl⟩ := Prod.mk.inj he
      exact ⟨0, by simp, rfl, by simp [lowerEach]⟩
    · rw [List.getElem?_append_right (by simpa using hplace), List.length_map] at h
      obtain ⟨k, hk, rfl, hle⟩ := ih h
      refine ⟨k + 1, by simpa using hk, by omega, ?_⟩
      rw [List.take_succ_cons, lowerEach_cons, List.length_append]
      omega

/-! ## Searching -/

/-- What an exact search finds is there. -/
lemma findExact_eq_some {needle line : Text} {place : Nat} (h : findExact needle line = some place) :
    ∃ before after, line = before ++ needle ++ after ∧ before.length = place := by
  induction line generalizing place with
  | nil =>
    rw [findExact] at h
    split at h
    · rename_i hneedle
      obtain rfl := Option.some.inj h
      exact ⟨[], [], by simp [hneedle], rfl⟩
    · simp at h
  | cons c rest ih =>
    rw [findExact] at h
    split at h
    · rename_i hpart
      obtain rfl := Option.some.inj h
      obtain ⟨after, hafter⟩ := List.isPrefixOf_iff_prefix.mp hpart
      exact ⟨[], after, by simp [hafter], rfl⟩
    · obtain ⟨i, hi, rfl⟩ := Option.map_eq_some_iff.mp h
      obtain ⟨before, after, rfl, rfl⟩ := ih hi
      exact ⟨c :: before, after, by simp, rfl⟩

/-- What begins with a character that did not occur before is found in its first place. -/
lemma findExact_of_not_mem {c : Char} {needle before : Text} (h : c ∉ before) (after : Text) :
    findExact (c :: needle) (before ++ (c :: needle ++ after)) = some before.length := by
  induction before with
  | nil =>
    have hprefix : (c :: needle).isPrefixOf (c :: (needle ++ after)) = true :=
      List.isPrefixOf_iff_prefix.mpr (List.prefix_append (c :: needle) after)
    rw [List.nil_append, List.cons_append, findExact, if_pos hprefix]
    rfl
  | cons d before ih =>
    obtain ⟨hne, hrest⟩ : c ≠ d ∧ c ∉ before := by simpa using h
    have hnot : ¬ (c :: needle).isPrefixOf (d :: (before ++ (c :: needle ++ after))) = true := by
      simp [hne]
    rw [List.cons_append, findExact, if_neg hnot, ih hrest]
    rfl

/-- An exact search finds what is there. -/
lemma isSome_findExact_iff {needle line : Text} :
    (findExact needle line).isSome = true ↔ needle <:+: line := by
  constructor
  · intro h
    obtain ⟨place, hplace⟩ := Option.isSome_iff_exists.mp h
    obtain ⟨before, after, rfl, -⟩ := findExact_eq_some hplace
    exact ⟨before, after, rfl⟩
  · intro h
    induction line with
    | nil => simp [findExact, List.infix_nil.mp h]
    | cons c rest ih =>
      rw [findExact]
      split
      · rfl
      · rename_i hpart
        rw [Option.isSome_map]
        apply ih
        exact (List.infix_cons_iff.mp h).resolve_left (mt List.isPrefixOf_iff_prefix.mpr hpart)

lemma findExact_add_length_le {needle line : Text} {place : Nat}
    (h : findExact needle line = some place) : place + needle.length ≤ line.length := by
  obtain ⟨before, after, rfl, rfl⟩ := findExact_eq_some h
  simp only [List.length_append]
  omega

/-- A search that ignores case finds what is there when every character of the line is in lower
case. -/
lemma isSome_findIgnoringCase_iff {line needle : Text} :
    (findIgnoringCase line needle).isSome = true ↔ needle <:+: lowerEach line := by
  unfold findIgnoringCase
  split
  · rename_i hneedle
    simp [hneedle]
  · rename_i hneedle
    rw [← isSome_findExact_iff]
    simp only [map_fst_lowerWithColumns]
    cases hplace : findExact needle (lowerEach line) with
    | none => rfl
    | some place =>
      -- what was found is not empty, and so its place is one of the lower case
      have hlt : place < (lowerWithColumns 0 line).length := by
        have hle := findExact_add_length_le hplace
        have hpos : 0 < needle.length := List.length_pos_iff.mpr hneedle
        rw [← List.length_map (f := Prod.fst), map_fst_lowerWithColumns]
        omega
      simp [hlt]

/-- What a search that ignores case finds begins in the line, and reaches past its end by no more
than the number of dotted capital I's that follow. -/
lemma findIgnoringCase_eq_some {line needle : Text} {column : Nat}
    (h : findIgnoringCase line needle = some column) :
    column ≤ line.length ∧
      column + needle.length ≤ line.length + (line.drop column).count '\u0130' := by
  unfold findIgnoringCase at h
  split at h
  · rename_i hneedle
    obtain rfl := Option.some.inj h
    simp [hneedle]
  · obtain ⟨place, hplace, hcolumn⟩ := Option.bind_eq_some_iff.mp h
    obtain ⟨⟨c, col⟩, hget, rfl⟩ := Option.map_eq_some_iff.mp hcolumn
    rw [map_fst_lowerWithColumns] at hplace
    obtain ⟨k, hk, rfl, hle⟩ := getElem?_lowerWithColumns hget
    -- the bound holds in the lower case, of which the part before the column is cut off
    have hin : place + needle.length ≤ line.length + line.count '\u0130' := by
      rw [← length_lowerEach]
      exact findExact_add_length_le hplace
    have hcut : line.count '\u0130' =
        (line.take k).count '\u0130' + (line.drop k).count '\u0130' := by
      rw [← List.count_append, List.take_append_drop]
    rw [length_lowerEach, List.length_take] at hle
    simp only [Nat.zero_add]
    omega

end LineSearch.Text
