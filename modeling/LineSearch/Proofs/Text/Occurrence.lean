/-
# The first place of a text in another

A text may occur in another at several places.  `FirstAt` says which of them is the first one, and
an exact search finds this one (`findExact_eq_some_iff`).  So what is found never stands behind a
place where the text is known to be (`exists_findExact_le`).
-/
import LineSearch.Proofs.Text.Finding

namespace LineSearch.Text

variable {needle text : Text} {place : Nat}

/-- The text `needle` occurs at the place, and at no place before it. -/
structure FirstAt (needle text : Text) (place : Nat) : Prop where
  occurs : needle <+: text.drop place
  least : ∀ k < place, ¬ needle <+: text.drop k

lemma FirstAt.le (h : FirstAt needle text place) {k : Nat} (hk : needle <+: text.drop k) :
    place ≤ k := by
  by_contra hlt
  exact h.least k (by omega) hk

/-- Where a text that is not empty begins there is a character. -/
lemma FirstAt.lt (h : FirstAt needle text place) (hne : needle ≠ []) : place < text.length := by
  have hpos : 0 < needle.length := List.length_pos_iff.mpr hne
  have hle := h.occurs.length_le
  rw [List.length_drop] at hle
  omega

lemma firstAt_zero_iff : FirstAt needle text 0 ↔ needle <+: text :=
  ⟨fun h => h.occurs, fun h => ⟨h, by simp⟩⟩

lemma firstAt_succ_iff {c : Char} {rest : Text} :
    FirstAt needle (c :: rest) (place + 1) ↔
      ¬ needle <+: c :: rest ∧ FirstAt needle rest place := by
  constructor
  · intro h
    refine ⟨h.least 0 (Nat.succ_pos place), h.occurs, fun k hk => ?_⟩
    exact h.least (k + 1) (Nat.succ_lt_succ hk)
  · rintro ⟨hhead, hrest⟩
    refine ⟨hrest.occurs, fun k hk => ?_⟩
    cases k with
    | zero => exact hhead
    | succ k => exact hrest.least k (Nat.lt_of_succ_lt_succ hk)

/-- **What an exact search finds.** -/
lemma findExact_eq_some_iff : findExact needle text = some place ↔ FirstAt needle text place := by
  induction text generalizing place with
  | nil =>
    rw [findExact]
    constructor
    · intro h
      split at h
      · rename_i hneedle
        obtain rfl := Option.some.inj h
        exact firstAt_zero_iff.mpr (by simp [hneedle])
      · simp at h
    · intro h
      obtain rfl : needle = [] := List.prefix_nil.mp (by simpa using h.occurs)
      have hzero : place ≤ 0 := h.le List.nil_prefix
      simp [Nat.le_zero.mp hzero]
  | cons c rest ih =>
    rw [findExact]
    split
    · rename_i hhead
      rw [List.isPrefixOf_iff_prefix] at hhead
      cases place with
      | zero => simp [firstAt_zero_iff, hhead]
      | succ place => simp [firstAt_succ_iff, hhead]
    · rename_i hhead
      rw [List.isPrefixOf_iff_prefix] at hhead
      cases place with
      | zero => simp [firstAt_zero_iff, hhead]
      | succ place => simp [firstAt_succ_iff, hhead, ih]

/-- A text that is known to be in another is found there or before. -/
lemma exists_findExact_le (before needle after : Text) :
    ∃ place ≤ before.length, findExact needle (before ++ needle ++ after) = some place := by
  have hin : needle <:+: before ++ needle ++ after := ⟨before, after, rfl⟩
  obtain ⟨place, hplace⟩ := Option.isSome_iff_exists.mp (isSome_findExact_iff.mpr hin)
  refine ⟨place, (findExact_eq_some_iff.mp hplace).le ?_, hplace⟩
  simp [List.append_assoc]

end LineSearch.Text
