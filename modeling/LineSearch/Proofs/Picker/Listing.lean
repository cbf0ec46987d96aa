/-
# The picker when a list is shown

A search that answers a query makes the picker show a list, and may choose an entry of it.  The
calls that do this are put together here: afterwards the list is there, the chosen entry is active
and selected, or the first entry is active and none is selected (`foldl_apply_answer`).  On the way
the picker takes note of each entry that becomes active.
-/
import LineSearch.Picker
import LineSearch.Proofs.Search.Step

namespace LineSearch.Picker

/-! ## What an active index says -/

/-- The active index fits the list, and what is selected is in it. -/
structure Sound (p : Picker) : Prop where
  active_eq_none_iff : p.active = none ↔ p.items = []
  active_lt : ∀ i, p.active = some i → i < p.items.length
  selected_mem : ∀ c ∈ p.selected, c ∈ p.items

lemma Sound.activeItems_eq_nil_iff {p : Picker} (h : p.Sound) :
    p.activeItems = [] ↔ p.items = [] := by
  rw [← h.active_eq_none_iff]
  cases hactive : p.active with
  | none => simp [activeItems, hactive]
  | some i => simp [activeItems, hactive, h.active_lt i hactive]

lemma Sound.of_eq {p q : Picker} (h : p.Sound) (hitems : q.items = p.items)
    (hactive : q.active = p.active) (hselected : q.selected = p.selected) : q.Sound where
  active_eq_none_iff := by rw [hactive, hitems, h.active_eq_none_iff]
  active_lt := by rw [hactive, hitems]; exact h.active_lt
  selected_mem := by rw [hselected, hitems]; exact h.selected_mem

/-- There is at most one active entry. -/
lemma activeItems_eq_nil_or (p : Picker) :
    p.activeItems = [] ∨ ∃ c ∈ p.items, p.activeItems = [c] := by
  unfold activeItems
  cases p.active with
  | none => exact Or.inl rfl
  | some i =>
    cases hi : p.items[i]? with
    | none => left; simp [hi]
    | some c => exact Or.inr ⟨c, List.mem_of_getElem? hi, by simp [hi]⟩

lemma mem_items_of_mem_activeItems {p : Picker} {c : Candidate} (h : c ∈ p.activeItems) :
    c ∈ p.items := by
  rcases p.activeItems_eq_nil_or with hnil | ⟨entry, hmem, hactive⟩
  · simp [hnil] at h
  · obtain rfl : c = entry := by simpa [hactive] using h
    exact hmem

/-! ## Showing a list -/

/-- The index that is active when a list is shown: that of the chosen entry, or else the first. -/
def focusOf (list : List Candidate) (chosen : Option Candidate) : Option Nat :=
  if list = [] then none else some ((chosen.bind fun c => list.findIdx? (· = c)).getD 0)

/-- What is noted as active while a list is shown: the first entry, and then the chosen one. -/
def focusNotes (list : List Candidate) (chosen : Option Candidate) : List (List Candidate) :=
  if list = [] then [] else list.head?.toList :: (chosen.map fun c => [c]).toList

/-- The picker with a list, in which an entry may be chosen. -/
def showing (p : Picker) (list : List Candidate) (chosen : Option Candidate) : Picker :=
  { p with items := list, active := focusOf list chosen, selected := chosen.toList }

variable {p : Picker} {list : List Candidate} {chosen : Option Candidate}

lemma findIdx?_eq_some_of_mem {c : Candidate} (h : c ∈ list) :
    ∃ i, list.findIdx? (· = c) = some i ∧ list[i]? = some c := by
  obtain ⟨i, hi⟩ : ∃ i, list.findIdx? (· = c) = some i := by
    rw [← Option.isSome_iff_exists, List.findIdx?_isSome]
    simpa using h
  obtain ⟨hlt, hget, -⟩ := List.findIdx?_eq_some_iff_getElem.mp hi
  exact ⟨i, hi, by simpa [hlt] using hget⟩

lemma sound_showing (hchosen : ∀ c ∈ chosen, c ∈ list) : (p.showing list chosen).Sound where
  active_eq_none_iff := by
    by_cases hlist : list = [] <;> simp [showing, focusOf, hlist]
  active_lt := by
    intro i hi
    by_cases hlist : list = []
    · simp [showing, focusOf, hlist] at hi
    · have hpos : 0 < list.length := List.length_pos_iff.mpr hlist
      simp only [showing, focusOf, hlist, if_false, Option.some.injEq] at hi ⊢
      cases hc : chosen with
      | none =>
        simp only [hc, Option.bind_none, Option.getD_none] at hi
        omega
      | some c =>
        obtain ⟨j, hj, hget⟩ := findIdx?_eq_some_of_mem (hchosen c hc)
        simp only [hc, Option.bind_some, hj, Option.getD_some] at hi
        obtain ⟨hlt, -⟩ := List.getElem?_eq_some_iff.mp hget
        omega
  selected_mem := by
    intro c hc
    exact hchosen c (by simpa [showing] using hc)

/-- The entry that was noted last is the active one. -/
lemma activeItems_showing (hchosen : ∀ c ∈ chosen, c ∈ list) :
    (p.showing list chosen).activeItems = (focusNotes list chosen).getLastD [] := by
  cases list with
  | nil => simp [showing, focusOf, focusNotes, activeItems]
  | cons x rest =>
    cases chosen with
    | none => simp [showing, focusOf, focusNotes, activeItems]
    | some c =>
      obtain ⟨i, hi, hget⟩ := findIdx?_eq_some_of_mem (hchosen c rfl)
      simp [showing, focusOf, focusNotes, activeItems, hi, hget]

/-- The chosen entry is the active one. -/
lemma activeItems_showing_some {c : Candidate} (h : c ∈ list) :
    (p.showing list (some c)).activeItems = [c] := by
  have hchosen : ∀ e ∈ some c, e ∈ list := by
    intro e he
    obtain rfl := Option.some.inj he
    exact h
  rw [activeItems_showing hchosen]
  simp [focusNotes, List.ne_nil_of_mem h]

/-- Every note is about one entry of the list. -/
lemma ne_nil_of_mem_focusNotes {entries : List Candidate} (h : entries ∈ focusNotes list chosen) :
    entries ≠ [] := by
  cases list with
  | nil => simp [focusNotes] at h
  | cons x rest =>
    cases chosen with
    | none => simp_all [focusNotes]
    | some c =>
      simp only [focusNotes, reduceCtorEq, if_false, List.head?_cons, Option.toList_some,
        Option.map_some, List.mem_cons, List.not_mem_nil, or_false] at h
      rcases h with rfl | rfl <;> simp

lemma length_focusNotes_le : (focusNotes list chosen).length ≤ 2 := by
  cases list with
  | nil => simp [focusNotes]
  | cons x rest => cases chosen <;> simp [focusNotes]

/-- **What an answer does to the picker.**  It shows the list, and each entry that became active on
the way is noted. -/
lemma foldl_apply_answer [Regex.Engine] (p : Picker) (s : Search) (d : Document) (query : Text) :
    (Call.toPicker (s.answer d query)).foldl apply p =
      { p.showing (Search.listing d query) (s.chosen d query) with
        events := p.events ++ (focusNotes (Search.listing d query) (s.chosen d query)).map
          PickerEvent.activeChanged } := by
  rw [Search.toPicker_answer]
  have hchosen := s.mem_listing_of_chosen d query
  generalize Search.listing d query = list at hchosen
  cases hc : s.chosen d query with
  | none =>
    cases list with
    | nil => simp [apply, setItems, setSelected, showing, focusOf, focusNotes]
    | cons x rest =>
      simp [apply, setItems, setActiveIndex, note, activeItems, setSelected, showing, focusOf,
        focusNotes]
  | some c =>
    have hmem : c ∈ list := hchosen c hc
    obtain ⟨i, hi, hget⟩ := findIdx?_eq_some_of_mem hmem
    have hne : list ≠ [] := List.ne_nil_of_mem hmem
    cases list with
    | nil => exact absurd rfl hne
    | cons x rest =>
      have hmem' : c = x ∨ c ∈ rest := List.mem_cons.mp hmem
      simp [apply, setItems, setActive, setActiveIndex, note, activeItems, setSelected, showing,
        focusOf, focusNotes, hi, hget, hmem']

/-! ## Moving through the list -/

/-- A move either makes an entry of the list active or changes nothing. -/
lemma moveActive_eq_or (p : Picker) (goal : Nat → Nat) :
    p.moveActive goal = p ∨ ∃ i < p.items.length, p.moveActive goal = p.setActiveIndex i := by
  by_cases hitems : p.items = []
  · left
    simp [moveActive, hitems]
  have hpos : 0 < p.items.length := List.length_pos_iff.mpr hitems
  obtain ⟨next, hlt, hnext⟩ : ∃ next < p.items.length,
      p.moveActive goal = if p.active = some next then p else p.setActiveIndex next := by
    cases hactive : p.active with
    | none => exact ⟨0, hpos, by simp [moveActive, hitems, hactive]⟩
    | some i =>
      have hlt : min (goal i) (p.items.length - 1) < p.items.length := by omega
      exact ⟨_, hlt, by simp [moveActive, hitems, hactive]⟩
  rw [hnext]
  split
  · exact Or.inl rfl
  · exact Or.inr ⟨next, hlt, rfl⟩

end LineSearch.Picker
