/-
# Numbers that are read back

The decimal digits of a number are read back as the number, and they do not begin with a zero unless
there is no other digit.
-/
import LineSearch.Text.Digit
import Mathlib.Tactic.Common

namespace LineSearch.Text

lemma isDigit_of_mem_decimal {n : Nat} {c : Char} (h : c ∈ decimal n) : c.isDigit = true :=
  Nat.isDigit_of_mem_toDigits (by decide) (by decide) h

lemma not_mem_decimal {n : Nat} {c : Char} (h : c.isDigit = false) : c ∉ decimal n := by
  intro hmem
  simp [isDigit_of_mem_decimal hmem] at h

lemma decimal_ne_nil (n : Nat) : decimal n ≠ [] := Nat.toDigits_ne_nil

/-- The number that a decimal digit stands for. -/
def digitValue (c : Char) : Nat := c.toNat - '0'.toNat

lemma toNat_of_isDigit {c : Char} (h : c.isDigit = true) : 48 ≤ c.toNat ∧ c.toNat ≤ 57 := by
  rw [Char.isDigit, Bool.and_eq_true, decide_eq_true_eq, decide_eq_true_eq] at h
  exact h

lemma digit?_of_isDigit {c : Char} (h : c.isDigit = true) : digit? 10 c = some (digitValue c) := by
  obtain ⟨hlo, hhi⟩ := toNat_of_isDigit h
  have hrange : '0' ≤ c ∧ c ≤ '9' := ⟨hlo, hhi⟩
  have hlt : c.toNat - '0'.toNat < 10 := by
    have hzero : '0'.toNat = 48 := rfl
    omega
  simp only [digit?, hrange.1, hrange.2, decide_true, Bool.and_self, if_true, if_pos hlt]
  rfl

lemma filterMap_digit? {t : Text} (h : ∀ c ∈ t, c.isDigit = true) :
    t.filterMap (digit? 10) = t.map digitValue := by
  induction t with
  | nil => rfl
  | cons c rest ih =>
    have hc := digit?_of_isDigit (h c (by simp))
    rw [List.filterMap_cons, hc, ih fun d hd => h d (by simp [hd])]
    rfl

lemma mapM_digit? {t : Text} (h : ∀ c ∈ t, c.isDigit = true) :
    t.mapM (digit? 10) = some (t.map digitValue) := by
  induction t with
  | nil => rfl
  | cons c rest ih =>
    have hc := digit?_of_isDigit (h c (by simp))
    rw [List.mapM_cons, hc, ih fun d hd => h d (by simp [hd])]
    rfl

lemma ofDigits_decimal (n : Nat) : ofDigits 10 ((decimal n).map digitValue) = n := by
  rw [ofDigits, List.foldl_map]
  exact Nat.ofDigitChars_ten_toDigits

/-- **A number is read back from its digits.** -/
lemma number?_decimal (n : Nat) : number? 10 (decimal n) = some n := by
  rw [number?, if_neg (decimal_ne_nil n), mapM_digit? fun c => isDigit_of_mem_decimal, Option.map_some,
    ofDigits_decimal]

/-- The digits of a positive number do not begin with a zero. -/
lemma head?_decimal_ne {n : Nat} (h : 0 < n) : (decimal n).head? ≠ some '0' := by
  induction n using Nat.strongRecOn with
  | ind n ih =>
    rw [decimal, Nat.toDigits_eq_if (by decide)]
    split
    · -- a single digit
      simp only [List.head?_cons, ne_eq, Option.some.injEq, Nat.digitChar_eq_zero]
      omega
    · have hfirst : (decimal (n / 10)).head? ≠ some '0' := ih (n / 10) (by omega) (by omega)
      obtain ⟨c, rest, hcons⟩ := List.exists_cons_of_ne_nil (decimal_ne_nil (n / 10))
      rw [decimal] at hcons hfirst
      rw [hcons] at hfirst ⊢
      exact hfirst

/-- If the first digit of a number is zero there is no other one. -/
lemma length_decimal_of_head? {n : Nat} (h : ((decimal n).map digitValue).head? = some 0) :
    (decimal n).length = 1 := by
  rw [List.head?_map, Option.map_eq_some_iff] at h
  obtain ⟨c, hc, hvalue⟩ := h
  have hrange := toNat_of_isDigit (isDigit_of_mem_decimal (List.mem_of_head? hc))
  have hzero : c = '0' := by
    have hsub : c.toNat - 48 = 0 := hvalue
    apply Char.toNat_inj.mp
    have hnat : '0'.toNat = 48 := rfl
    omega
  rw [hzero] at hc
  obtain rfl : n = 0 := by
    by_contra hne
    exact head?_decimal_ne (Nat.pos_of_ne_zero hne) hc
  rfl

end LineSearch.Text
