/-
# The lower case of a text and of its characters

The lower case of a text is that of its characters, except that a capital sigma becomes a final
sigma where it ends a word.  So both are the same if and only if no sigma ends a word
(`lower_eq_lowerEach_iff`), and in any case they contain the same texts without a sigma
(`infix_lower_iff`).
-/
import LineSearch.Text.Lowercase
import Mathlib.Data.List.Infix
import Mathlib.Tactic.Common

namespace LineSearch.Text

/-- A capital sigma ends a word of the text: a cased character stands before it and none comes
after it, those that case ignores apart. -/
def HasFinalSigma (t : Text) : Prop :=
  ∃ before after, t = before ++ 'Σ' :: after ∧ nextIsCased before.reverse = true ∧
    nextIsCased after = false

lemma lowerChar_sigma : lowerChar 'Σ' = ['σ'] := by decide

/-- The rest of a text has the lower case of its characters if no capital sigma in it ends a
word. -/
lemma lowerAfter_eq_lowerEach {before t : Text}
    (h : ∀ a b, t = a ++ 'Σ' :: b → nextIsCased (a.reverse ++ before) = true →
      nextIsCased b = true) : lowerAfter before t = lowerEach t := by
  induction t generalizing before with
  | nil => rfl
  | cons c rest ih =>
    have hrest : lowerAfter (c :: before) rest = lowerEach rest := by
      apply ih
      intro a b hab hcased
      exact h (c :: a) b (by rw [hab, List.cons_append]) (by simpa using hcased)
    have hhead : (if c == 'Σ' then
        if nextIsCased before && !nextIsCased rest then ['ς'] else ['σ'] else lowerChar c) =
        lowerChar c := by
      by_cases hsigma : c = 'Σ'
      · subst hsigma
        have hnext := h [] rest rfl
        cases hbefore : nextIsCased before <;> simp_all [lowerChar_sigma]
      · simp [hsigma]
    rw [lowerAfter, hhead, hrest]
    rfl

/-- A text in which no capital sigma ends a word has the lower case of its characters. -/
lemma lower_eq_lowerEach {t : Text} (h : ¬ t.HasFinalSigma) : lower t = lowerEach t := by
  apply lowerAfter_eq_lowerEach
  intro a b hab hcased
  rw [List.append_nil] at hcased
  by_contra hnext
  exact h ⟨a, b, hab, hcased, Bool.eq_false_iff.mpr hnext⟩

/-- If a text has the lower case of its characters, a cased character comes after each capital sigma
that one stands before. -/
lemma nextIsCased_of_lowerAfter_eq {before a b : Text}
    (h : lowerAfter before (a ++ 'Σ' :: b) = lowerEach (a ++ 'Σ' :: b))
    (hcased : nextIsCased (a.reverse ++ before) = true) : nextIsCased b = true := by
  induction a generalizing before with
  | nil =>
    by_contra hnext
    have hfinal : lowerAfter before ('Σ' :: b) = ['ς'] ++ lowerAfter ('Σ' :: before) b := by
      have hends : (nextIsCased before && !nextIsCased b) = true := by
        rw [Bool.and_eq_true]
        exact ⟨hcased, by simpa using hnext⟩
      rw [lowerAfter, if_pos (by decide), if_pos hends]
    rw [List.nil_append, hfinal, lowerEach, List.flatMap_cons, lowerChar_sigma] at h
    have hsigmas := (List.append_inj h rfl).1
    exact absurd hsigmas (by decide)
  | cons c rest ih =>
    -- a character has as many characters in both, so what follows it is the same
    rw [List.cons_append, lowerAfter] at h
    have hlength : (if c == 'Σ' then
        if nextIsCased before && !nextIsCased (rest ++ 'Σ' :: b) then ['ς'] else ['σ']
        else lowerChar c).length = (lowerChar c).length := by
      by_cases hsigma : c = 'Σ'
      · rw [hsigma, lowerChar_sigma, if_pos (by decide)]
        split <;> rfl
      · simp [hsigma]
    have hrest := (List.append_inj (h.trans List.flatMap_cons) hlength).2
    apply ih hrest
    simpa using hcased

/-- **A text has the lower case of its characters if and only if no capital sigma in it ends a
word.** -/
lemma lower_eq_lowerEach_iff {t : Text} : lower t = lowerEach t ↔ ¬ t.HasFinalSigma := by
  refine ⟨?_, lower_eq_lowerEach⟩
  rintro h ⟨a, b, rfl, hcased, hnext⟩
  have hfollows := nextIsCased_of_lowerAfter_eq h (by simpa using hcased)
  exact absurd (hfollows.symm.trans hnext) (by decide)

/-! ## Texts without a sigma -/

/-- The usual sigma for the final one. -/
def unfinal (c : Char) : Char := if c = 'ς' then 'σ' else c

lemma map_unfinal_lowerAfter (before t : Text) :
    (lowerAfter before t).map unfinal = (lowerEach t).map unfinal := by
  induction t generalizing before with
  | nil => rfl
  | cons c rest ih =>
    have hhead : (if c == 'Σ' then
        if nextIsCased before && !nextIsCased rest then ['ς'] else ['σ'] else lowerChar c).map
          unfinal = (lowerChar c).map unfinal := by
      by_cases hsigma : c = 'Σ'
      · subst hsigma
        rw [lowerChar_sigma]
        split
        · split <;> rfl
        · rfl
      · simp [hsigma]
    rw [lowerAfter, List.map_append, hhead, ih, ← List.map_append]
    rfl

lemma map_unfinal_eq_self {t : Text} (h : 'ς' ∉ t) : t.map unfinal = t := by
  have hself : ∀ c ∈ t, unfinal c = id c := by
    intro c hc
    have hne : c ≠ 'ς' := fun heq => h (heq ▸ hc)
    exact if_neg hne
  rw [List.map_congr_left hself, List.map_id]

/-- It makes no difference to a text without a sigma which sigma is written around it. -/
lemma infix_map_unfinal_iff {needle t : Text} (hsigma : 'σ' ∉ needle) (hfinal : 'ς' ∉ needle) :
    needle <:+: t.map unfinal ↔ needle <:+: t := by
  constructor
  · intro h
    obtain ⟨part, hpart, hneedle⟩ := List.infix_map_iff.mp h
    have hnone : 'ς' ∉ part := by
      intro hmem
      exact hsigma (hneedle ▸ List.mem_map_of_mem hmem)
    rwa [hneedle, map_unfinal_eq_self hnone]
  · intro h
    rw [← map_unfinal_eq_self hfinal]
    exact h.map unfinal

/-- **The two lower cases contain the same texts without a sigma.** -/
lemma infix_lower_iff {needle t : Text} (hsigma : 'σ' ∉ needle) (hfinal : 'ς' ∉ needle) :
    needle <:+: lower t ↔ needle <:+: lowerEach t := by
  rw [← infix_map_unfinal_iff hsigma hfinal, lower, map_unfinal_lowerAfter,
    infix_map_unfinal_iff hsigma hfinal]

end LineSearch.Text
