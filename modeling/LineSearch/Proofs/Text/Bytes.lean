/-
# Texts cut at a byte

A text can be cut at a byte unless the byte is past its end or a character lies across it, that is to
say begins before it and ends after it (`splitAtByte?_eq_none_iff`).  Where it can be cut, the two
parts make up the text, and the first one has so many bytes (`splitAtByte?_eq_some_iff`).
-/
import LineSearch.Proofs.InputLine

namespace LineSearch.Text

/-- A character of the text lies across the byte: it begins before the byte and ends after it. -/
def Across (t : Text) (byte : Nat) : Prop :=
  ∃ (before : Text) (c : Char) (after : Text), t = before ++ c :: after ∧
    before.byteLength < byte ∧ byte < before.byteLength + c.utf8Size

variable {t : Text} {byte : Nat}

lemma not_across_nil : ¬ Across [] byte := by
  rintro ⟨before, c, after, h, -⟩
  simp at h

/-- A byte before the end of the first character is not at the beginning, or it is counted from the
second one on. -/
lemma across_cons_iff {c : Char} :
    Across (c :: t) byte ↔
      (0 < byte ∧ byte < c.utf8Size) ∨ (c.utf8Size ≤ byte ∧ Across t (byte - c.utf8Size)) := by
  constructor
  · rintro ⟨before, e, after, h, hbegin, hend⟩
    rcases before with _ | ⟨b, before⟩
    · obtain ⟨rfl, rfl⟩ := List.cons.inj h
      simp only [byteLength] at hbegin hend
      exact .inl ⟨hbegin, by omega⟩
    · obtain ⟨rfl, rfl⟩ := List.cons.inj h
      simp only [byteLength] at hbegin hend
      exact .inr ⟨by omega, before, e, after, rfl, by omega, by omega⟩
  · rintro (⟨hpos, hlt⟩ | ⟨hle, before, e, after, rfl, hbegin, hend⟩)
    · exact ⟨[], c, t, rfl, hpos, by simpa [byteLength] using hlt⟩
    · refine ⟨c :: before, e, after, rfl, ?_, ?_⟩
      · rw [byteLength]
        omega
      · rw [byteLength]
        omega

lemma byteLength_pos_iff : 0 < t.byteLength ↔ t ≠ [] := by
  cases t with
  | nil => simp [byteLength]
  | cons c rest =>
    have hpos : 0 < c.utf8Size := c.utf8Size_pos
    simp only [byteLength, ne_eq, reduceCtorEq, not_false_eq_true, iff_true]
    omega

lemma byteLength_eq_zero_iff : t.byteLength = 0 ↔ t = [] :=
  not_iff_not.mp (Nat.pos_iff_ne_zero.symm.trans byteLength_pos_iff)

lemma byteLength_of_forall (h : ∀ c ∈ t, c.utf8Size = 1) : t.byteLength = t.length := by
  induction t with
  | nil => rfl
  | cons c rest ih =>
    rw [byteLength, h c (by simp), ih fun d hd => h d (by simp [hd]), List.length_cons, Nat.add_comm]

/-- **Where a text cannot be cut.** -/
lemma splitAtByte?_eq_none_iff :
    t.splitAtByte? byte = none ↔ t.byteLength < byte ∨ Across t byte := by
  induction t generalizing byte with
  | nil =>
    cases byte with
    | zero => simp [splitAtByte?, byteLength, not_across_nil]
    | succ n => simp [splitAtByte?, byteLength]
  | cons c rest ih =>
    cases byte with
    | zero => simp [splitAtByte?, across_cons_iff, Nat.not_le.mpr c.utf8Size_pos]
    | succ n =>
      rw [splitAtByte?, byteLength, across_cons_iff]
      split
      · next hle =>
        rw [Option.map_eq_none_iff, ih]
        constructor
        · rintro (hlt | h)
          · exact .inl (by omega)
          · exact .inr (.inr ⟨hle, h⟩)
        · rintro (hlt | ⟨-, hlt⟩ | ⟨-, h⟩)
          · exact .inl (by omega)
          · omega
          · exact .inr h
      · next hlt =>
        -- the first character lies across the byte
        simp only [true_iff]
        exact .inr (.inl ⟨by omega, by omega⟩)

/-- **Where a text can be cut.** -/
lemma splitAtByte?_eq_some_iff {before after : Text} :
    t.splitAtByte? byte = some (before, after) ↔ t = before ++ after ∧ before.byteLength = byte := by
  constructor
  · intro h
    induction t generalizing byte before with
    | nil =>
      cases byte with
      | zero =>
        obtain ⟨rfl, rfl⟩ := Prod.mk.inj (Option.some.inj h)
        exact ⟨rfl, rfl⟩
      | succ n => cases h
    | cons c rest ih =>
      cases byte with
      | zero =>
        obtain ⟨rfl, rfl⟩ := Prod.mk.inj (Option.some.inj h)
        exact ⟨rfl, rfl⟩
      | succ n =>
        rw [splitAtByte?] at h
        split at h
        · next hle =>
          obtain ⟨⟨before, after⟩, hrest, heq⟩ := Option.map_eq_some_iff.mp h
          obtain ⟨rfl, rfl⟩ := Prod.mk.inj heq
          obtain ⟨rfl, hbytes⟩ := ih hrest
          refine ⟨rfl, ?_⟩
          rw [byteLength, hbytes]
          omega
        · cases h
  · rintro ⟨rfl, rfl⟩
    exact splitAtByte?_append before after

/-- Two beginnings of a text with the same number of bytes are the same. -/
lemma append_inj_of_byteLength_eq {before before' after after' : Text}
    (h : before ++ after = before' ++ after') (hbytes : before.byteLength = before'.byteLength) :
    before = before' ∧ after = after' := by
  have hcut := splitAtByte?_append before after
  rw [h, hbytes, splitAtByte?_append] at hcut
  obtain ⟨rfl, rfl⟩ := Prod.mk.inj (Option.some.inj hcut)
  exact ⟨rfl, rfl⟩

/-- No character lies across the place where two texts are put together. -/
lemma not_across_append (before after : Text) : ¬ Across (before ++ after) before.byteLength := by
  intro h
  have hnone := splitAtByte?_eq_none_iff.mpr (.inr h)
  rw [splitAtByte?_append] at hnone
  cases hnone

end LineSearch.Text
