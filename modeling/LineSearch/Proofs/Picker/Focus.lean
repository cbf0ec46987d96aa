/-
# The active entry of the picker

Whatever is done with a picker, an entry of its list is active just if the list has any, and what
was noted last about the active entry is what is the case.  Both come from what a single action does
to the focus (`Refocuses`): nothing, or it empties the list, or it makes an entry active and notes
just that one.  The main result is `focus_performAll`.
-/
import LineSearch.Proofs.Picker.Editing

namespace LineSearch

/-- The entries that a note reports as active. -/
def PickerEvent.entries? : PickerEvent → Option (List Candidate)
  | .activeChanged entries => some entries
  | _ => none

namespace Picker

/-- What an action makes the picker note, besides the notes that it leaves. -/
def queued (p : Picker) (a : PickerAction) : List PickerEvent :=
  (p.perform a).events.drop (a.keep p.events).length

/-- All that the picker notes in the course of some actions, the oldest first, whether or not it is
taken later. -/
def noted (p : Picker) : List PickerAction → List PickerEvent
  | [] => []
  | a :: rest => p.queued a ++ (p.perform a).noted rest

/-- The active index is one of the list, and there is one unless the list is empty. -/
structure Focused (p : Picker) : Prop where
  active_eq_none_iff : p.active = none ↔ p.items = []
  activeInList : p.ActiveInList

/-- What a step with the given notes does to the focus. -/
inductive Refocuses (p q : Picker) (notes : List PickerEvent) : Prop where
  /-- The list and the active index stay as they are. -/
  | kept (items_eq : q.items = p.items) (active_eq : q.active = p.active)
      (notes_eq : notes.filterMap PickerEvent.entries? = [])
  /-- The list becomes empty. -/
  | emptied (items_eq : q.items = []) (active_eq : q.active = none)
      (notes_eq : notes.filterMap PickerEvent.entries? = [])
  /-- An entry becomes active. -/
  | moved (i : Nat) (c : Candidate) (active_eq : q.active = some i)
      (getElem?_eq : q.items[i]? = some c) (notes_eq : notes = [.activeChanged [c]])

/-- The picker `q` has some notes and then some more, and these are what is noted at a step from `p`
to `q`. -/
def Reaches (p q : Picker) (notes : List PickerEvent) : Prop :=
  ∃ queued, q.events = notes ++ queued ∧ Refocuses p q queued

variable {p q : Picker}

/-! ## What an action does to the focus -/

lemma Reaches.of_eq {notes : List PickerEvent} (hitems : q.items = p.items)
    (hactive : q.active = p.active) (hevents : q.events = notes) : Reaches p q notes :=
  ⟨[], by simpa using hevents, .kept hitems hactive rfl⟩

/-- A note about something else than the active entry. -/
lemma Reaches.of_note {e : PickerEvent} (he : e.entries? = none) (hitems : q.items = p.items)
    (hactive : q.active = p.active) (hevents : q.events = p.events ++ [e]) :
    Reaches p q p.events :=
  ⟨[e], hevents, .kept hitems hactive (by simp [he])⟩

lemma reaches_setActiveIndex (p : Picker) {i : Nat} (hi : i < q.items.length) :
    Reaches p (q.setActiveIndex i) q.events := by
  have hitem : q.items[i]? = some q.items[i] := List.getElem?_eq_getElem hi
  have hactive : ({ q with active := some i } : Picker).activeItems = [q.items[i]] := by
    simp [activeItems]
  refine ⟨[.activeChanged [q.items[i]]], ?_, .moved i q.items[i] rfl hitem rfl⟩
  rw [setActiveIndex, hactive]
  rfl

lemma reaches_moveActive (p : Picker) (goal : Nat → Nat) :
    Reaches p (p.moveActive goal) p.events := by
  rcases p.moveActive_eq_or goal with hsame | ⟨i, hi, hmove⟩
  · rw [hsame]
    exact .of_eq rfl rfl rfl
  · rw [hmove]
    exact reaches_setActiveIndex p hi

lemma reaches_hide (p : Picker) : Reaches p p.hide p.events := by
  unfold hide
  split
  · exact .of_note (e := .hidden) rfl rfl rfl rfl
  · exact .of_eq rfl rfl rfl

lemma reaches_obey (p : Picker) (c : Command) : Reaches p (p.obey c) p.events := by
  cases c with
  | type c => exact .of_note (e := .valueChanged _) rfl rfl rfl rfl
  | backspace =>
    rw [obey, backspace]
    cases p.input.erase? with
    | none => exact .of_eq rfl rfl rfl
    | some input => exact .of_note (e := .valueChanged _) rfl rfl rfl rfl
  | move direction =>
    cases direction with
    | up | down => exact reaches_moveActive p _
    | left | right => exact .of_eq rfl rfl rfl
  | pageUp | pageDown => exact reaches_moveActive p _
  | enter => exact .of_note (e := .accepted) rfl rfl rfl rfl
  | escape => exact reaches_hide p
  | _ => exact .of_eq rfl rfl rfl

lemma reaches_apply (p : Picker) (c : PickerCall) : Reaches p (p.apply c) p.events := by
  cases c with
  | setItems items =>
    rw [apply, setItems]
    split
    · rename_i hnil
      exact ⟨[], (List.append_nil _).symm, .emptied hnil rfl rfl⟩
    · rename_i hne
      exact reaches_setActiveIndex p (q := { p with items, active := none })
        (List.length_pos_iff.mpr hne)
  | setActive entries =>
    rw [apply, setActive]
    split
    · rename_i i hfound
      obtain ⟨wanted, -, hwanted⟩ := Option.bind_eq_some_iff.mp hfound
      obtain ⟨hi, -⟩ := List.findIdx?_eq_some_iff_getElem.mp hwanted
      exact reaches_setActiveIndex p hi
    · exact .of_eq rfl rfl rfl
  | hide => exact reaches_hide p
  | _ => exact .of_eq rfl rfl rfl

lemma reaches_perform (p : Picker) (a : PickerAction) :
    Reaches p (p.perform a) (a.keep p.events) := by
  cases a with
  | command c => exact reaches_obey p c
  | call c => exact reaches_apply p c
  | present | takeNote => exact .of_eq rfl rfl rfl

/-- The notes after an action are those that it leaves and then what it makes the picker note. -/
lemma events_perform (p : Picker) (a : PickerAction) :
    (p.perform a).events = a.keep p.events ++ p.queued a := by
  obtain ⟨notes, hevents, -⟩ := reaches_perform p a
  rw [queued, hevents, List.drop_left]

/-- **What an action does to the focus.** -/
lemma refocuses_perform (p : Picker) (a : PickerAction) :
    Refocuses p (p.perform a) (p.queued a) := by
  obtain ⟨notes, hevents, hfocus⟩ := reaches_perform p a
  rwa [queued, hevents, List.drop_left]

/-! ## What holds after every action -/

lemma activeItems_eq_singleton {i : Nat} {c : Candidate} (hactive : p.active = some i)
    (hitem : p.items[i]? = some c) : p.activeItems = [c] := by
  simp [activeItems, hactive, hitem]

lemma Focused.refocuses {notes : List PickerEvent} (h : p.Focused) (hstep : Refocuses p q notes) :
    q.Focused := by
  cases hstep with
  | kept hitems hactive hnotes =>
    refine ⟨by rw [hactive, hitems, h.active_eq_none_iff], ?_⟩
    intro i hi
    rw [hitems]
    exact h.activeInList i (hactive.symm.trans hi)
  | emptied hitems hactive hnotes =>
    refine ⟨by simp [hactive, hitems], ?_⟩
    intro i hi
    exact absurd (hactive.symm.trans hi) (by simp)
  | moved i c hactive hitem hnotes =>
    have hlt : i < q.items.length := (List.getElem?_eq_some_iff.mp hitem).1
    refine ⟨by simp [hactive, List.ne_nil_of_length_pos (Nat.zero_lt_of_lt hlt)], ?_⟩
    intro j hj
    obtain rfl : i = j := Option.some.inj (hactive.symm.trans hj)
    exact hlt

/-- Of a list that is not empty exactly one entry is active. -/
lemma Focused.exists_activeItems (h : p.Focused) (hitems : p.items ≠ []) :
    ∃ c ∈ p.items, p.activeItems = [c] := by
  rcases p.activeItems_eq_nil_or with hnil | hone
  · cases hactive : p.active with
    | none => exact absurd (h.active_eq_none_iff.mp hactive) hitems
    | some i => simp [activeItems, hactive, h.activeInList i hactive] at hnil
  · exact hone

/-- The notes about the active entry, `before` a step and at it, end with what is the case then. -/
lemma Refocuses.getLast?_eq {notes : List PickerEvent} {before : List (List Candidate)}
    (hstep : Refocuses p q notes)
    (hbefore : p.items ≠ [] → before.getLast? = some p.activeItems) (hitems : q.items ≠ []) :
    (before ++ notes.filterMap PickerEvent.entries?).getLast? = some q.activeItems := by
  cases hstep with
  | kept hsame hactive hnotes =>
    rw [hnotes, List.append_nil, hbefore (hsame ▸ hitems)]
    simp only [activeItems, hactive, hsame]
  | emptied hnil hactive hnotes => exact absurd hnil hitems
  | moved i c hactive hitem hnotes =>
    rw [hnotes, activeItems_eq_singleton hactive hitem]
    simp [PickerEvent.entries?]

lemma performAll_concat (p : Picker) (actions : List PickerAction) (a : PickerAction) :
    p.performAll (actions ++ [a]) = (p.performAll actions).perform a := by
  simp [performAll]

lemma noted_concat (p : Picker) (actions : List PickerAction) (a : PickerAction) :
    p.noted (actions ++ [a]) = p.noted actions ++ (p.performAll actions).queued a := by
  induction actions generalizing p with
  | nil => simp [noted, performAll]
  | cons b rest ih =>
    simp only [List.cons_append, noted, ih, List.append_assoc]
    rfl

/-- What waits to be taken is the end of all that was noted. -/
lemma events_suffix_noted (actions : List PickerAction) :
    (({} : Picker).performAll actions).events <:+ ({} : Picker).noted actions := by
  induction actions using List.reverseRecOn with
  | nil => exact List.suffix_rfl
  | append_singleton actions a ih =>
    rw [performAll_concat, noted_concat, events_perform]
    have hkeep : a.keep (({} : Picker).performAll actions).events <:+
        ({} : Picker).noted actions := by
      cases a with
      | command c | call c => exact ih
      | present => exact List.nil_suffix
      | takeNote => exact (List.tail_suffix _).trans ih
    obtain ⟨taken, htaken⟩ := hkeep
    exact ⟨taken, by rw [← htaken, List.append_assoc]⟩

lemma focused_performAll (actions : List PickerAction) :
    (({} : Picker).performAll actions).Focused := by
  induction actions using List.reverseRecOn with
  | nil => exact ⟨by simp [performAll], fun i hi => absurd hi (by simp [performAll])⟩
  | append_singleton actions a ih =>
    rw [performAll_concat]
    exact ih.refocuses (refocuses_perform _ a)

lemma getLast?_noted (actions : List PickerAction)
    (hitems : (({} : Picker).performAll actions).items ≠ []) :
    ((({} : Picker).noted actions).filterMap PickerEvent.entries?).getLast? =
      some (({} : Picker).performAll actions).activeItems := by
  induction actions using List.reverseRecOn with
  | nil => exact absurd rfl hitems
  | append_singleton actions a ih =>
    rw [performAll_concat] at hitems ⊢
    rw [noted_concat, List.filterMap_append]
    exact (refocuses_perform _ a).getLast?_eq ih hitems

/-- **The focus of the picker.**  Begin with a new picker, and let any actions be performed.

* No entry is active if and only if the list is empty, and otherwise the active index is one of the
  list, so that the active entry can always be looked up.
* What waits to be taken is the end of all that was noted.
* If a note about the active entry is made at whatever is done next, it is the only note made there,
  and it tells the one entry that has just become active.
* Such a note is made whenever another entry becomes active.
* If the list is not empty, the last note of this kind that was ever made tells the active entry. -/
theorem focus_performAll (actions : List PickerAction) :
    let p := ({} : Picker).performAll actions
    let notes := ({} : Picker).noted actions
    (p.active = none ↔ p.items = []) ∧ (∀ i, p.active = some i → i < p.items.length) ∧
      p.activeItems? = some p.activeItems ∧ p.events <:+ notes ∧
      (∀ a entries, .activeChanged entries ∈ p.queued a →
        p.queued a = [.activeChanged entries] ∧ entries = (p.perform a).activeItems ∧
          ∃ i c, (p.perform a).active = some i ∧ (p.perform a).items[i]? = some c ∧
            entries = [c]) ∧
      (∀ a, (p.perform a).items ≠ [] → (p.perform a).activeItems ≠ p.activeItems →
        p.queued a = [.activeChanged (p.perform a).activeItems]) ∧
      (p.items ≠ [] → (notes.filterMap PickerEvent.entries?).getLast? = some p.activeItems ∧
        ∃ c ∈ p.items, p.activeItems = [c]) := by
  intro p notes
  have h : p.Focused := focused_performAll actions
  refine ⟨h.active_eq_none_iff, h.activeInList, activeItems?_eq h.activeInList,
    events_suffix_noted actions, ?_, ?_,
    fun hitems => ⟨getLast?_noted actions hitems, h.exists_activeItems hitems⟩⟩
  · intro a entries hmem
    have hentries : entries ∈ (p.queued a).filterMap PickerEvent.entries? :=
      List.mem_filterMap.mpr ⟨_, hmem, rfl⟩
    cases refocuses_perform p a with
    | kept hitems hactive hnotes => simp [hnotes] at hentries
    | emptied hitems hactive hnotes => simp [hnotes] at hentries
    | moved i c hactive hitem hnotes =>
      obtain rfl : entries = [c] := by simpa [hnotes, PickerEvent.entries?] using hentries
      exact ⟨hnotes, (activeItems_eq_singleton hactive hitem).symm, i, c, hactive, hitem, rfl⟩
  · intro a hitems hchanged
    cases refocuses_perform p a with
    | kept hsame hactive hnotes =>
      exact absurd (by simp only [activeItems, hactive, hsame]) hchanged
    | emptied hnil hactive hnotes => exact absurd hnil hitems
    | moved i c hactive hitem hnotes =>
      rw [hnotes, activeItems_eq_singleton hactive hitem]

end Picker

end LineSearch
