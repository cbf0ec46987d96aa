/-
# What the delivery of notes does

The search hears the notes of the picker one by one, and what it hears may lead to more notes.  Here
the effect of the whole delivery is said for each note that a command can leave behind.  A changed
value makes the picker show a new list, the viewer go to the active entry and the painter start anew
(`settle_valueChanged`); an accepted or hidden picker ends the search (`settle_accepted_cons`,
`settle_hidden`).
-/
import LineSearch.App
import LineSearch.Proofs.Picker.Listing
import LineSearch.Proofs.Viewer

namespace LineSearch

/-- The picker with other notes. -/
def Picker.withNotes (p : Picker) (events : List PickerEvent) : Picker := { p with events }

lemma Picker.withNotes_self {p : Picker} {events : List PickerEvent} (h : p.events = events) :
    p.withNotes events = p := by
  subst h
  rfl

namespace App

variable {a : App} {saved : SavedView} {accepted : Bool}

/-! ## Telling the search of one event -/

/-- The calls reach each partner apart from the others. -/
lemma foldl_call (calls : List Call) (a : App) :
    calls.foldl call a =
      { a with
        picker := (Call.toPicker calls).foldl Picker.apply a.picker
        viewer := (Call.toViewer calls).foldl Viewer.apply a.viewer
        highlights := (Call.toPainter calls).foldl Highlight.Store.paint a.highlights } := by
  induction calls generalizing a with
  | nil => rfl
  | cons c rest ih =>
    rw [List.foldl_cons, ih]
    cases c <;> simp [call, Call.toPicker, Call.toViewer, Call.toPainter]

variable [Regex.Engine]

lemma tell_eq (a : App) (e : SearchEvent) :
    a.tell e =
      { a with
        search := (a.search.step a.surroundings e).1
        picker := (Call.toPicker (a.search.step a.surroundings e).2).foldl Picker.apply a.picker
        viewer := (Call.toViewer (a.search.step a.surroundings e).2).foldl Viewer.apply a.viewer
        highlights := (Call.toPainter (a.search.step a.surroundings e).2).foldl
          Highlight.Store.paint a.highlights } :=
  foldl_call _ _

/-- Nothing changes if the search ignores an event. -/
lemma tell_of_ignores {e : SearchEvent} (h : a.search.Ignores a.surroundings e) :
    a.tell e = a := by
  rw [tell_eq, Search.step_of_ignores h]
  rfl

/-- The program when a search has begun with a session and its query is not answered yet. -/
def awaiting (a : App) (session : Session) : App :=
  { a with
    search := { a.search with
      phase := .searching ⟨a.viewer.selection, a.viewer.topLine⟩ false, session }
    picker := (a.picker.setItems []).setValue session.lastQuery }

/-- A search begins by answering the query of its session. -/
lemma tell_of_opens (h : a.search.phase = .idle) {e : SearchEvent} (he : e.opens = true) :
    a.tell e = (a.awaiting (e.sessionAfter a.search.session)).tell
      (.queryChanged (e.sessionAfter a.search.session).lastQuery) := by
  rw [tell_eq, Search.step_of_opens h he, tell_eq, Search.step_queryChanged rfl]
  rfl

lemma tell_focusChanged (h : a.search.phase = .searching saved accepted)
    (entries : List Candidate) :
    a.tell (.focusChanged entries) = { a with viewer := a.viewer.lookAt entries } := by
  cases entries with
  | nil => exact tell_of_ignores (Or.inr (Or.inr (Or.inl rfl)))
  | cons c rest =>
    rw [tell_eq, Search.step_focusChanged_cons h]
    rfl

/-- What is painted when a query is answered. -/
def paintings (a : App) (query : Text) : Highlight.Store :=
  (Call.toPainter (a.search.answer a.document query)).foldl Highlight.Store.paint a.highlights

/-- The picker when a query is answered, before the notes of that are delivered. -/
def listed (a : App) (query : Text) : Picker :=
  a.picker.showing (Search.listing a.document query) (a.search.chosen a.document query)

/-- An entry that is chosen becomes the active one. -/
lemma activeItems_listed {query : Text} {c : Candidate}
    (hc : a.search.chosen a.document query = some c) : (a.listed query).activeItems = [c] := by
  rw [listed, hc]
  exact Picker.activeItems_showing_some (a.search.mem_listing_of_chosen a.document query c hc)

/-- What becomes active one after the other when a query is answered. -/
def looks (a : App) (query : Text) : List (List Candidate) :=
  Picker.focusNotes (Search.listing a.document query) (a.search.chosen a.document query)

lemma tell_queryChanged (h : a.search.phase = .searching saved accepted) (query : Text) :
    a.tell (.queryChanged query) =
      { a with
        picker := (a.listed query).withNotes
          (a.picker.events ++ (a.looks query).map .activeChanged)
        highlights := a.paintings query } := by
  rw [tell_eq, Search.step_queryChanged h]
  simp only [surroundings, Search.toViewer_answer, List.foldl_nil, Picker.foldl_apply_answer]
  rfl

lemma tell_accepted_cons (h : a.search.phase = .searching saved accepted) {c : Candidate}
    {rest : List Candidate} (hselected : a.picker.selected = c :: rest) :
    a.tell .accepted =
      { a with
        search := { a.search with
          phase := .searching saved true, session := .remember a.picker.value c }
        picker := a.picker.hide
        viewer :=
          { a.viewer with selection := c.found.target }.revealCentered c.found.target } := by
  rw [tell_eq, Search.step_accepted_cons (w := a.surroundings) h hselected]
  rfl

lemma tell_accepted_nil (hselected : a.picker.selected = []) : a.tell .accepted = a :=
  tell_of_ignores (Or.inr (Or.inr (Or.inr ⟨rfl, hselected⟩)))

lemma tell_hidden (h : a.search.phase = .searching saved accepted) :
    a.tell .hidden =
      { a with
        search := { a.search with phase := .idle }
        viewer := if accepted then a.viewer
          else { a.viewer with selection := saved.selection }.scrollTo saved.topLine
        highlights := {} } := by
  rw [tell_eq, Search.step_hidden h]
  cases accepted <;> rfl

/-! ## Delivering notes -/

/-- The program when notes were taken and the given ones are left. -/
def left (a : App) (rest : List PickerEvent) : App :=
  { a with picker := a.picker.withNotes rest }

omit [Regex.Engine] in
lemma left_self {rest : List PickerEvent} (h : a.picker.events = rest) : a.left rest = a := by
  rw [left, Picker.withNotes_self h]

lemma deliver_of_nil (h : a.picker.events = []) (n : Nat) : deliver n a = a := by
  cases n <;> simp [deliver, deliverOne, h]

lemma deliver_succ {e : PickerEvent} {rest : List PickerEvent} (h : a.picker.events = e :: rest)
    (n : Nat) : deliver (n + 1) a = deliver n ((a.left rest).tell e.toSearchEvent) := by
  simp only [deliver, deliverOne, h]
  rfl

/-- A single note is delivered first, and two more may be delivered after it. -/
lemma settle_of_singleton {e : PickerEvent} (h : a.picker.events = [e]) :
    a.settle = deliver 2 ((a.left []).tell e.toSearchEvent) := by
  rw [settle, h]
  exact deliver_succ h 2

/-- Notes of active entries only make the viewer look at them. -/
lemma deliver_focusNotes (h : a.search.phase = .searching saved accepted)
    {looks : List (List Candidate)} (hevents : a.picker.events = looks.map .activeChanged) {n : Nat}
    (hn : looks.length ≤ n) :
    deliver n a = { a.left [] with viewer := looks.foldl Viewer.lookAt a.viewer } := by
  induction looks generalizing a n with
  | nil =>
    rw [deliver_of_nil hevents]
    exact (left_self hevents).symm
  | cons entries rest ih =>
    cases n with
    | zero => simp at hn
    | succ n =>
      -- looking somewhere leads to no more notes, so that only the rest is left
      rw [deliver_succ hevents, PickerEvent.toSearchEvent,
        tell_focusChanged (a := a.left (rest.map .activeChanged)) h entries]
      exact ih (by exact h) rfl (by simpa using hn)

/-- The program after a query was answered and all notes of that were delivered. -/
def answered (a : App) (query : Text) : App :=
  { a with
    picker := (a.listed query).withNotes []
    viewer := a.viewer.lookAt (a.listed query).activeItems
    highlights := a.paintings query }

/-- Delivering the notes of an answer. -/
lemma deliver_tell_queryChanged (h : a.search.phase = .searching saved accepted)
    (hevents : a.picker.events = []) {query : Text} {n : Nat} (hn : (a.looks query).length ≤ n) :
    deliver n (a.tell (.queryChanged query)) = a.answered query := by
  have hlooks : (a.looks query).foldl Viewer.lookAt a.viewer =
      a.viewer.lookAt (a.listed query).activeItems := by
    have hchosen := a.search.mem_listing_of_chosen a.document query
    rw [listed, Picker.activeItems_showing hchosen, looks]
    exact Viewer.foldl_lookAt a.viewer fun l hl => Picker.ne_nil_of_mem_focusNotes hl
  rw [tell_queryChanged h, hevents, List.nil_append, answered, ← hlooks]
  exact deliver_focusNotes (by exact h) rfl hn

lemma settle_tell_queryChanged (h : a.search.phase = .searching saved accepted)
    (hevents : a.picker.events = []) (query : Text) :
    (a.tell (.queryChanged query)).settle = a.answered query := by
  refine deliver_tell_queryChanged h hevents ?_
  rw [tell_queryChanged h, hevents]
  simp only [Picker.withNotes, List.nil_append, List.length_map]
  omega

lemma settle_valueChanged (h : a.search.phase = .searching saved accepted) {query : Text}
    (hevents : a.picker.events = [.valueChanged query]) :
    a.settle = (a.left []).answered query := by
  rw [settle_of_singleton hevents]
  -- an answer is followed by two notes at most
  exact deliver_tell_queryChanged (a := a.left []) h rfl Picker.length_focusNotes_le

lemma settle_activeChanged (h : a.search.phase = .searching saved accepted)
    {entries : List Candidate} (hevents : a.picker.events = [.activeChanged entries]) :
    a.settle = { a.left [] with viewer := a.viewer.lookAt entries } := by
  rw [settle_of_singleton hevents, PickerEvent.toSearchEvent,
    tell_focusChanged (a := a.left []) h entries]
  exact deliver_of_nil rfl 2

/-! ## Ending a search -/

/-- The program after an entry was accepted and the picker hidden. -/
def committed (a : App) (c : Candidate) : App :=
  { a with
    search := { a.search with phase := .idle, session := .remember a.picker.value c }
    picker := { a.picker with visible := false, events := [] }
    viewer := { a.viewer with selection := c.found.target }.revealCentered c.found.target
    highlights := {} }

/-- The program after the picker was hidden without an accepted entry. -/
def cancelled (a : App) (saved : SavedView) : App :=
  { a with
    search := { a.search with phase := .idle }
    picker := { a.picker with visible := false, events := [] }
    viewer := { a.viewer with selection := saved.selection }.scrollTo saved.topLine
    highlights := {} }

lemma settle_accepted_cons (h : a.search.phase = .searching saved accepted)
    (hevents : a.picker.events = [.accepted]) (hvisible : a.picker.visible = true)
    {c : Candidate} {rest : List Candidate} (hselected : a.picker.selected = c :: rest) :
    a.settle = a.committed c := by
  rw [settle_of_singleton hevents, PickerEvent.toSearchEvent,
    tell_accepted_cons (a := a.left []) h hselected]
  have hhide : (a.left []).picker.hide =
      { a.picker with visible := false, events := [.hidden] } := by
    simp [Picker.hide, left, Picker.withNotes, hvisible, Picker.note]
  rw [hhide, deliver_succ rfl, PickerEvent.toSearchEvent, tell_hidden rfl]
  exact deliver_of_nil rfl 1

lemma settle_accepted_nil (hevents : a.picker.events = [.accepted])
    (hselected : a.picker.selected = []) : a.settle = a.left [] := by
  rw [settle_of_singleton hevents, PickerEvent.toSearchEvent,
    tell_accepted_nil (a := a.left []) hselected]
  exact deliver_of_nil rfl 2

lemma settle_hidden (h : a.search.phase = .searching saved false)
    (hevents : a.picker.events = [.hidden]) (hvisible : a.picker.visible = false) :
    a.settle = a.cancelled saved := by
  have hpicker : { a.picker with visible := false, events := [] } = a.picker.withNotes [] := by
    rw [← hvisible]
    rfl
  rw [settle_of_singleton hevents, PickerEvent.toSearchEvent, tell_hidden (a := a.left []) h,
    cancelled, hpicker]
  exact deliver_of_nil rfl 2

end App

end LineSearch
