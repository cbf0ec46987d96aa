/-
# The delivery of notes comes to an end

The search may call the picker for each note that is delivered to it, and the picker may take more
notes then.  What follows from a note is little: a query makes at most two entries active, an
accepted entry hides the picker, and nothing follows from the rest (`PickerEvent.LeadsTo`).  So a
note can be given a cost that covers its own delivery and the cost of all that follows from it, and
the cost of the notes that are left falls with each delivery (`cost_lt_of_deliverOne`).

`Drains` says what it is to deliver notes until none is left, without any bound.  The main result is
that `settle` does this, in whatever state the program is (`drains_settle`).
-/
import LineSearch.Proofs.App.Delivery

namespace LineSearch

namespace PickerEvent

/-- The notes that can follow when a note is delivered. -/
def LeadsTo : PickerEvent → List PickerEvent → Prop
  | valueChanged _, added =>
    ∃ looks : List (List Candidate), looks.length ≤ 2 ∧ added = looks.map activeChanged
  | accepted, added => added = [] ∨ added = [hidden]
  | activeChanged _, added | hidden, added => added = []

/-- How many notes are delivered at most because of a note, with itself. -/
def cost : PickerEvent → Nat
  | valueChanged _ => 3
  | accepted => 2
  | activeChanged _ | hidden => 1

/-- The cost of several notes. -/
def costs : List PickerEvent → Nat
  | [] => 0
  | e :: notes => e.cost + costs notes

variable {e : PickerEvent} {notes more : List PickerEvent}

@[simp] lemma costs_nil : costs [] = 0 := rfl

@[simp] lemma costs_cons : costs (e :: notes) = e.cost + costs notes := rfl

@[simp] lemma costs_append : costs (notes ++ more) = costs notes + costs more := by
  induction notes with
  | nil => simp
  | cons e notes ih => simp [ih, Nat.add_assoc]

lemma costs_map_activeChanged (looks : List (List Candidate)) :
    costs (looks.map activeChanged) = looks.length := by
  induction looks with
  | nil => rfl
  | cons entries looks ih =>
    rw [List.map_cons, costs_cons, ih, cost, List.length_cons, Nat.add_comm]

lemma costs_le (notes : List PickerEvent) : costs notes ≤ 3 * notes.length := by
  induction notes with
  | nil => exact Nat.le_refl 0
  | cons e notes ih =>
    have hcost : e.cost ≤ 3 := by cases e <;> simp [cost]
    rw [costs_cons, List.length_cons]
    omega

lemma leadsTo_nil (e : PickerEvent) : e.LeadsTo [] := by
  cases e with
  | valueChanged query => exact ⟨[], by simp, rfl⟩
  | accepted => exact Or.inl rfl
  | activeChanged entries => rfl
  | hidden => rfl

/-- A note costs more than what follows from it. -/
lemma LeadsTo.costs_lt (h : e.LeadsTo notes) : costs notes < e.cost := by
  cases e with
  | valueChanged query =>
    obtain ⟨looks, hlength, rfl⟩ := h
    rw [costs_map_activeChanged, cost]
    omega
  | accepted =>
    rcases h with rfl | rfl <;> simp [cost]
  | activeChanged entries =>
    obtain rfl : notes = [] := h
    simp [cost]
  | hidden =>
    obtain rfl : notes = [] := h
    simp [cost]

end PickerEvent

open PickerEvent (costs)

namespace App

variable [Regex.Engine] {a b c : App} {m n : Nat} {e : PickerEvent}

/-! ## One delivery -/

/-- What the picker notes when the search hears of a note, in any state. -/
lemma events_tell (a : App) (e : PickerEvent) :
    ∃ added, e.LeadsTo added ∧
      (a.tell e.toSearchEvent).picker.events = a.picker.events ++ added := by
  cases hphase : a.search.phase with
  | idle =>
    have hignored : a.search.Ignores a.surroundings e.toSearchEvent := by
      refine Or.inl ⟨Search.isSearching_eq_false_iff.mpr hphase, ?_⟩
      cases e <;> rfl
    exact ⟨[], e.leadsTo_nil, by rw [tell_of_ignores hignored, List.append_nil]⟩
  | searching saved accepted =>
    cases e with
    | valueChanged query =>
      refine ⟨(a.looks query).map .activeChanged, ⟨_, Picker.length_focusNotes_le, rfl⟩, ?_⟩
      rw [PickerEvent.toSearchEvent, tell_queryChanged hphase]
      rfl
    | activeChanged entries =>
      refine ⟨[], rfl, ?_⟩
      rw [PickerEvent.toSearchEvent, tell_focusChanged hphase, List.append_nil]
    | accepted =>
      cases hselected : a.picker.selected with
      | nil =>
        refine ⟨[], Or.inl rfl, ?_⟩
        rw [PickerEvent.toSearchEvent, tell_accepted_nil hselected, List.append_nil]
      | cons entry rest =>
        rw [PickerEvent.toSearchEvent, tell_accepted_cons hphase hselected]
        cases hvisible : a.picker.visible with
        | false => exact ⟨[], Or.inl rfl, by simp [Picker.hide, hvisible]⟩
        | true => exact ⟨[.hidden], Or.inr rfl, by simp [Picker.hide, hvisible, Picker.note]⟩
    | hidden =>
      refine ⟨[], rfl, ?_⟩
      rw [PickerEvent.toSearchEvent, tell_hidden hphase, List.append_nil]

lemma deliverOne_eq_none_iff : a.deliverOne = none ↔ a.picker.events = [] := by
  rw [deliverOne]
  cases a.picker.events <;> simp

/-- With each delivery the cost of the notes that are left falls. -/
lemma cost_lt_of_deliverOne (h : a.deliverOne = some b) :
    costs b.picker.events < costs a.picker.events := by
  rw [deliverOne] at h
  cases hevents : a.picker.events with
  | nil => simp [hevents] at h
  | cons e rest =>
    rw [hevents] at h
    obtain rfl := Option.some.inj h
    obtain ⟨added, hadded, htell⟩ := events_tell (a.left rest) e
    have hleft : (a.left rest).picker.events = rest := rfl
    have hevents : ((a.left rest).tell e.toSearchEvent).picker.events = rest ++ added := by
      rw [htell, hleft]
    show costs ((a.left rest).tell e.toSearchEvent).picker.events < costs (e :: rest)
    rw [hevents, PickerEvent.costs_append, PickerEvent.costs_cons]
    have hlt := hadded.costs_lt
    omega

/-! ## Delivering until no note is left -/

/-- By so many deliveries, each of the oldest note, the program comes to a state in which no note is
left. -/
inductive Drains : App → Nat → App → Prop
  | done {a : App} (h : a.deliverOne = none) : Drains a 0 a
  | next {a b c : App} {n : Nat} (h : a.deliverOne = some b) (rest : Drains b n c) :
    Drains a (n + 1) c

namespace Drains

lemma events_eq_nil (h : Drains a n b) : b.picker.events = [] := by
  induction h with
  | done h => exact deliverOne_eq_none_iff.mp h
  | next h rest ih => exact ih

/-- There are no more deliveries than the notes cost. -/
lemma le_cost (h : Drains a n b) : n ≤ costs a.picker.events := by
  induction h with
  | done h => exact Nat.zero_le _
  | next h rest ih =>
    have hlt := cost_lt_of_deliverOne h
    omega

/-- Nothing is left to choice. -/
lemma unique (h : Drains a n b) (h' : Drains a m c) : m = n ∧ c = b := by
  induction h generalizing m with
  | done h =>
    cases h' with
    | done => exact ⟨rfl, rfl⟩
    | next hnext => exact absurd (h.symm.trans hnext) (by simp)
  | next h rest ih =>
    cases h' with
    | done hdone => exact absurd (hdone.symm.trans h) (by simp)
    | next hnext rest' =>
      obtain rfl := Option.some.inj (h.symm.trans hnext)
      obtain ⟨rfl, rfl⟩ := ih rest'
      exact ⟨rfl, rfl⟩

end Drains

/-- As many deliveries as the notes cost are enough. -/
lemma exists_drains_deliver (h : costs a.picker.events ≤ n) : ∃ k, Drains a k (deliver n a) := by
  induction n generalizing a with
  | zero =>
    have hnil : a.picker.events = [] := by
      cases hevents : a.picker.events with
      | nil => rfl
      | cons e rest =>
        rw [hevents, PickerEvent.costs_cons] at h
        have hpos : 0 < e.cost := by cases e <;> simp [PickerEvent.cost]
        omega
    exact ⟨0, .done (deliverOne_eq_none_iff.mpr hnil)⟩
  | succ n ih =>
    rw [deliver]
    cases hone : a.deliverOne with
    | none => exact ⟨0, .done hone⟩
    | some b =>
      have hlt := cost_lt_of_deliverOne hone
      obtain ⟨k, hk⟩ := ih (a := b) (by omega)
      exact ⟨k + 1, .next hone hk⟩

/-- **The delivery of notes comes to an end,** whatever notes there are and in whatever state the
program is.  No note is left then, there have been at most three deliveries for each note that there
was, and this is what settling does. -/
theorem drains_settle (a : App) :
    ∃ n ≤ 3 * a.picker.events.length, Drains a n a.settle ∧ a.settle.picker.events = [] ∧
      ∀ m b, Drains a m b → m = n ∧ b = a.settle := by
  obtain ⟨n, hn⟩ := exists_drains_deliver (PickerEvent.costs_le a.picker.events)
  have hle : n ≤ 3 * a.picker.events.length :=
    Nat.le_trans hn.le_cost (PickerEvent.costs_le a.picker.events)
  exact ⟨n, hle, hn, hn.events_eq_nil, fun m b h => hn.unique h⟩

end App

end LineSearch
