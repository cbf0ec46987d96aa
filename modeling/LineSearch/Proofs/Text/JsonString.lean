/-
# Texts in JSON that are read back

Every character of a JSON string is written as itself or as an escape that stands for it
(`jsonChar_eq_or`).  So a text is read back as it was, whatever its characters are
(`quoted?_flatMap_jsonChar`), and what was written is one line.
-/
import LineSearch.Data.Json
import LineSearch.Text.Quoted
import Mathlib.Tactic.Common

namespace LineSearch.Text

open Data.Json (quoted? escape? numbered? unit?)

/-! ## Escapes -/

/-- The four hexadecimal digits of the number of a control character. -/
def controlDigits (n : Nat) : Text :=
  ['0', '0'] ++ (if n < 0x10 then ['0'] else []) ++ hexDigits n

lemma number?_controlDigits : ∀ n < 0x20, number? 16 (controlDigits n) = some n := by decide

lemma length_controlDigits : ∀ n < 0x20, (controlDigits n).length = 4 := by decide

lemma newline_not_mem_controlDigits : ∀ n < 0x20, '\n' ∉ controlDigits n := by decide

/-- The number of a character stands for the character. -/
lemma scalar?_toNat (c : Char) : scalar? c.toNat = some c := by
  have hvalid : c.toNat.isValidChar := c.valid
  rw [scalar?, if_pos hvalid, Char.ofNat_toNat]

lemma escape?_controlDigits {c : Char} (h : c.toNat < 0x20) (rest : Text) :
    escape? ('u' :: controlDigits c.toNat ++ rest) = some (c, rest) := by
  have hlength : (controlDigits c.toNat).length = 4 := length_controlDigits c.toNat h
  have hunit : unit? (controlDigits c.toNat ++ rest) = some (c.toNat, rest) := by
    have hlong : ¬ (controlDigits c.toNat ++ rest).length < 4 := by
      rw [List.length_append, hlength]
      omega
    rw [unit?, if_neg hlong, List.take_left' hlength, List.drop_left' hlength,
      number?_controlDigits c.toNat h]
    rfl
  -- the number is too small to be one half of a pair
  have hsmall : ¬ 0xD800 ≤ c.toNat := by omega
  rw [List.cons_append, escape?, numbered?, hunit]
  simp [hsmall, scalar?_toNat]

/-- A character is written as itself, or as a backslash and an escape that stands for it. -/
lemma jsonChar_eq_or (c : Char) :
    (jsonChar c = [c] ∧ c ≠ '"' ∧ c ≠ '\\' ∧ ¬ c.toNat < 0x20) ∨
      ∃ e, jsonChar c = '\\' :: e ∧ '\n' ∉ e ∧ ∀ rest, escape? (e ++ rest) = some (c, rest) := by
  -- five controls have a letter of their own
  have hletter (d e : Char) (hd : (c == d) = true) (he : '\n' ≠ e)
      (hread : ∀ rest, escape? (e :: rest) = some (d, rest)) :
      ∃ e', ['\\', e] = '\\' :: e' ∧ '\n' ∉ e' ∧
        ∀ rest, escape? (e' ++ rest) = some (c, rest) := by
    obtain rfl := eq_of_beq hd
    exact ⟨[e], rfl, by simpa using he, hread⟩
  unfold jsonChar
  split
  · rename_i hmark
    simp only [Bool.or_eq_true, beq_iff_eq] at hmark
    rcases hmark with rfl | rfl <;> exact Or.inr ⟨_, rfl, by decide, fun rest => rfl⟩
  rename_i hmark
  split
  · rename_i h
    exact Or.inr (hletter _ _ h (by decide) fun rest => rfl)
  split
  · rename_i h
    exact Or.inr (hletter _ _ h (by decide) fun rest => rfl)
  split
  · rename_i h
    exact Or.inr (hletter _ _ h (by decide) fun rest => rfl)
  split
  · rename_i h
    exact Or.inr (hletter _ _ h (by decide) fun rest => rfl)
  split
  · rename_i h
    exact Or.inr (hletter _ _ h (by decide) fun rest => rfl)
  split
  · rename_i hcontrol
    refine Or.inr ⟨'u' :: controlDigits c.toNat, rfl, ?_, escape?_controlDigits hcontrol⟩
    simpa using newline_not_mem_controlDigits c.toNat hcontrol
  · rename_i hcontrol
    simp only [Bool.or_eq_true, beq_iff_eq, not_or] at hmark
    exact Or.inl ⟨rfl, hmark.1, hmark.2, hcontrol⟩

lemma newline_not_mem_jsonString (t : Text) : '\n' ∉ jsonString t := by
  have hchar (c : Char) : '\n' ∉ jsonChar c := by
    rcases jsonChar_eq_or c with ⟨hself, -, -, hcontrol⟩ | ⟨e, hescape, hnone, -⟩
    · rw [hself, List.mem_singleton]
      rintro rfl
      exact hcontrol (by decide)
    · simpa [hescape] using hnone
  simp [jsonString, hchar]

/-! ## Reading -/

lemma quoted?_jsonChar (c : Char) (fuel : Nat) (rest : Text) :
    quoted? (fuel + 1) (jsonChar c ++ rest) =
      (quoted? fuel rest).map fun (t, after) => (c :: t, after) := by
  rcases jsonChar_eq_or c with ⟨hself, hquote, hslash, hcontrol⟩ | ⟨e, hescape, -, hread⟩
  · rw [hself, List.singleton_append]
    cases hrest : quoted? fuel rest <;> simp [quoted?, hcontrol, hrest]
  · rw [hescape, List.cons_append]
    cases hrest : quoted? fuel rest <;> simp [quoted?, hread, hrest]

lemma quoted?_flatMap_jsonChar {t rest : Text} {fuel : Nat} (h : t.length < fuel) :
    quoted? fuel (t.flatMap jsonChar ++ '"' :: rest) = some (t, rest) := by
  induction t generalizing fuel with
  | nil =>
    obtain ⟨n, rfl⟩ := Nat.exists_eq_succ_of_ne_zero (Nat.ne_zero_of_lt h)
    rfl
  | cons c more ih =>
    obtain ⟨n, rfl⟩ := Nat.exists_eq_succ_of_ne_zero (Nat.ne_zero_of_lt h)
    have hmore : more.length < n := by simpa using h
    rw [List.flatMap_cons, List.append_assoc, quoted?_jsonChar, ih hmore]
    rfl

/-- A written character takes a place at least. -/
lemma length_le_flatMap_jsonChar (t : Text) : t.length ≤ (t.flatMap jsonChar).length := by
  induction t with
  | nil => exact Nat.le_refl 0
  | cons c rest ih =>
    have hpos : 0 < (jsonChar c).length := by
      rcases jsonChar_eq_or c with ⟨hself, -⟩ | ⟨e, hescape, -⟩
      · simp [hself]
      · simp [hescape]
    rw [List.flatMap_cons, List.length_append, List.length_cons]
    omega

end LineSearch.Text
