/-
# Numbers and the texts that write them

A text writes a number in a base of at most sixteen if it consists of digits of the base, at least
one of them, the highest first (`Numeral`).  Letters may be of either case.  A signed numeral may have
a plus sign before it.  The main result is `number?_eq_some_iff`: a number is read from the texts that
write it, and from no others.
-/
import LineSearch.Proofs.Text.Bytes
import LineSearch.Text.Digit
import Mathlib.Data.Nat.Digits.Defs
import Mathlib.Tactic.IntervalCases

namespace LineSearch.Text

/-! ## Letters of either case -/

lemma toNat_toLower (c : Char) :
    c.toLower.toNat = if 65 ≤ c.toNat ∧ c.toNat ≤ 90 then c.toNat + 32 else c.toNat := by
  have hcapital : c.val ≥ 'A'.val ∧ c.val ≤ 'Z'.val ↔ 65 ≤ c.toNat ∧ c.toNat ≤ 90 := Iff.rfl
  show (if h : c.val ≥ 'A'.val ∧ c.val ≤ 'Z'.val then _ else c).toNat = _
  split
  · next h =>
    rw [if_pos (hcapital.mp h)]
    show (c.val + 32).toNat = c.val.toNat + 32
    have hle : c.val.toNat ≤ 90 := h.2
    have h32 : (32 : UInt32).toNat = 32 := rfl
    rw [UInt32.toNat_add]
    omega
  · next h => rw [if_neg (mt hcapital.mpr h)]

/-- A character of one byte stays one, and all others stay what they are. -/
lemma utf8Size_toLower (c : Char) : c.toLower.utf8Size = c.utf8Size := by
  have hsize (e : Char) : e.utf8Size = 1 ↔ e.toNat ≤ 127 := Char.utf8Size_eq_one_iff
  by_cases h : 65 ≤ c.toNat ∧ c.toNat ≤ 90
  · have hlower : c.toLower.toNat = c.toNat + 32 := by rw [toNat_toLower, if_pos h]
    rw [(hsize _).mpr (by omega), (hsize _).mpr (by omega)]
  · have hlower : c.toLower = c := Char.toNat_inj.mp (by rw [toNat_toLower, if_neg h])
    rw [hlower]

/-! ## Digits -/

lemma toNat_digitChar {d : Nat} (h : d < 16) :
    d.digitChar.toNat = if d < 10 then 48 + d else 87 + d := by
  interval_cases d <;> rfl

variable {base : Nat}

lemma digit?_eq_some_iff (hbase : base ≤ 16) {c : Char} {d : Nat} :
    digit? base c = some d ↔ d < base ∧ d.digitChar = c.toLower := by
  have hle (a b : Char) : (a ≤ b) = (a.toNat ≤ b.toNat) := rfl
  simp only [digit?, hle, Bool.and_eq_true, decide_eq_true_eq, Option.ite_none_right_eq_some,
    Option.some.injEq, Char.reduceToNat]
  by_cases hd : d < base
  · -- both sides say the same of the number of the character
    rw [← Char.toNat_inj, toNat_digitChar (by omega), toNat_toLower]
    split_ifs <;> omega
  · constructor
    · rintro ⟨hlt, rfl⟩
      exact absurd hlt hd
    · rintro ⟨hlt, -⟩
      exact absurd hlt hd

lemma mapM_digit?_eq_some_iff (hbase : base ≤ 16) {t : Text} {ds : List Nat} :
    t.mapM (digit? base) = some ds ↔
      (∀ d ∈ ds, d < base) ∧ ds.map Nat.digitChar = t.map Char.toLower := by
  induction t generalizing ds with
  | nil =>
    rw [List.mapM_nil, List.map_nil, List.map_eq_nil_iff]
    constructor
    · rintro h
      obtain rfl := Option.some.inj h
      simp
    · rintro ⟨-, rfl⟩
      rfl
  | cons c rest ih =>
    rw [List.mapM_cons]
    constructor
    · intro h
      obtain ⟨d, hd, h⟩ := Option.bind_eq_some_iff.mp h
      obtain ⟨ds', hds', h⟩ := Option.bind_eq_some_iff.mp h
      obtain rfl := Option.some.inj h
      obtain ⟨hlt, hc⟩ := (digit?_eq_some_iff hbase).mp hd
      obtain ⟨hall, hmap⟩ := ih.mp hds'
      exact ⟨by simpa using ⟨hlt, hall⟩, by rw [List.map_cons, hc, hmap, List.map_cons]⟩
    · rintro ⟨hall, hmap⟩
      obtain ⟨d, ds', rfl, hc, hmap⟩ := List.map_eq_cons_iff.mp hmap
      have hd := (digit?_eq_some_iff hbase).mpr ⟨hall d (by simp), hc⟩
      have hds' := ih.mpr ⟨fun e he => hall e (by simp [he]), hmap⟩
      rw [hd, hds']
      rfl

/-! ## Numerals -/

/-- The text writes the number with digits of the base, the highest digit first. -/
def Numeral (base : Nat) (t : Text) (n : Nat) : Prop :=
  ∃ ds : List Nat, ds ≠ [] ∧ (∀ d ∈ ds, d < base) ∧
    ds.map Nat.digitChar = t.map Char.toLower ∧ n = Nat.ofDigits base ds.reverse

/-- The text writes the number with digits of the base, and there may be a plus sign before them. -/
def SignedNumeral (base : Nat) (t : Text) (n : Nat) : Prop :=
  Numeral base t n ∨ ∃ digits, t = '+' :: digits ∧ Numeral base digits n

lemma ofDigits_eq (ds : List Nat) : ofDigits base ds = Nat.ofDigits base ds.reverse := by
  rw [Nat.ofDigits_eq_foldr, List.foldr_reverse, ofDigits]
  simp only [Nat.cast_id, Nat.add_comm]

/-- **Numbers are read from the texts that write them.** -/
lemma number?_eq_some_iff (hbase : base ≤ 16) {t : Text} {n : Nat} :
    number? base t = some n ↔ Numeral base t n := by
  rw [number?]
  by_cases ht : t = []
  · -- no digit is too few
    subst ht
    rw [if_pos rfl]
    constructor
    · intro h
      cases h
    · rintro ⟨ds, hne, -, hmap, -⟩
      exact absurd (List.map_eq_nil_iff.mp hmap) hne
  · rw [if_neg ht, Option.map_eq_some_iff]
    constructor
    · rintro ⟨ds, hds, rfl⟩
      obtain ⟨hall, hmap⟩ := (mapM_digit?_eq_some_iff hbase).mp hds
      refine ⟨ds, ?_, hall, hmap, ofDigits_eq ds⟩
      rintro rfl
      exact ht (List.map_eq_nil_iff.mp hmap.symm)
    · rintro ⟨ds, -, hall, hmap, rfl⟩
      exact ⟨ds, (mapM_digit?_eq_some_iff hbase).mpr ⟨hall, hmap⟩, ofDigits_eq ds⟩

namespace Numeral

variable {t : Text} {n : Nat}

lemma exists_digit (h : Numeral base t n) {c : Char} (hc : c ∈ t) :
    ∃ d < base, d.digitChar = c.toLower := by
  obtain ⟨ds, -, hall, hmap, -⟩ := h
  have hmem : c.toLower ∈ ds.map Nat.digitChar := by
    rw [hmap]
    exact List.mem_map_of_mem hc
  obtain ⟨d, hd, heq⟩ := List.mem_map.mp hmem
  exact ⟨d, hall d hd, heq⟩

/-- A sign is no digit. -/
lemma plus_not_mem (h : Numeral base t n) : '+' ∉ t := by
  intro hmem
  obtain ⟨d, -, hd⟩ := h.exists_digit hmem
  exact Nat.digitChar_ne '+' (by decide) hd

/-- Digits take one byte each. -/
lemma utf8Size_eq_one (hbase : base ≤ 16) (h : Numeral base t n) {c : Char} (hc : c ∈ t) :
    c.utf8Size = 1 := by
  obtain ⟨d, hd, heq⟩ := h.exists_digit hc
  have hnat := toNat_digitChar (Nat.lt_of_lt_of_le hd hbase)
  rw [← utf8Size_toLower, ← heq]
  refine Char.utf8Size_eq_one_iff.mpr ?_
  show d.digitChar.toNat ≤ 127
  split_ifs at hnat <;> omega

lemma lt_pow (hbase : 1 < base) (h : Numeral base t n) : n < base ^ t.length := by
  obtain ⟨ds, -, hall, hmap, rfl⟩ := h
  have hlength : t.length = ds.reverse.length := by
    simpa using (congrArg List.length hmap).symm
  rw [hlength]
  exact Nat.ofDigits_lt_base_pow_length hbase (by simpa using hall)

end Numeral

namespace SignedNumeral

variable {t : Text} {n : Nat}

lemma of_plus_not_mem (h : SignedNumeral base t n) (hplus : '+' ∉ t) : Numeral base t n := by
  rcases h with h | ⟨digits, rfl, -⟩
  · exact h
  · simp at hplus

lemma byteLength_eq (hbase : base ≤ 16) (h : SignedNumeral base t n) :
    t.byteLength = t.length := by
  rcases h with h | ⟨digits, rfl, h⟩
  · exact byteLength_of_forall fun c => h.utf8Size_eq_one hbase
  · refine byteLength_of_forall fun c hc => ?_
    rcases List.mem_cons.mp hc with rfl | hc
    · rfl
    · exact h.utf8Size_eq_one hbase hc

lemma lt_pow (hbase : 1 < base) (h : SignedNumeral base t n) : n < base ^ t.length := by
  rcases h with h | ⟨digits, rfl, h⟩
  · exact h.lt_pow hbase
  · refine (h.lt_pow hbase).trans_le (Nat.pow_le_pow_right (by omega) ?_)
    simp

end SignedNumeral

end LineSearch.Text
