/-
# What a command does to the program

While no note of the picker is left, and the picker and the search agree on whether a search goes on
(`Quiet`), a command does one of a few things, which are listed in `Turn`.  So what is to be proved
of every command is proved for each of them.  The main results are

* `turn_handle`: what a command does is a turn;
* `Turn.quiet`: after a turn everything is quiet again.
-/
import LineSearch.Proofs.App.Delivery

namespace LineSearch

namespace InputLine

@[simp] lemma text_left (l : InputLine) : l.left.text = l.text := by
  unfold left
  split
  · split <;> rfl
  · rfl

@[simp] lemma text_right (l : InputLine) : l.right.text = l.text := by
  unfold right
  split <;> rfl

end InputLine

namespace App

variable {a b : App} {c : Command} {saved : SavedView} {accepted : Bool}

/-! ## Beginning a search -/

/-- The program when a search has begun with a session and its query is not answered yet. -/
def opening (a : App) (session : Session) : App :=
  { a with
    search := { a.search with
      phase := .searching ⟨a.viewer.selection, a.viewer.topLine⟩ false, session }
    picker := { input := .ofText session.lastQuery, visible := true } }

/-- The program when the picker was made visible. -/
def presented (a : App) : App := { a with picker := a.picker.present }

/-- A search begins with an empty list and the query of its session.  Nothing of the picker before is
left. -/
lemma awaiting_presented (a : App) (session : Session) :
    a.presented.awaiting session = a.opening session := rfl

variable [Regex.Engine]

/-- The program after a search has begun with a session. -/
def begun (a : App) (session : Session) : App := (a.opening session).answered session.lastQuery

/-- The program after a search was asked for, whether with a text or without. -/
def asked (a : App) (e : SearchEvent) : App :=
  if a.search.isSearching then a else (a.presented.tell e).settle

/-- Outside of a search one begins when it is asked for. -/
lemma asked_of_idle (h : a.search.phase = .idle) {e : SearchEvent} (he : e.opens = true) :
    a.asked e = a.begun (e.sessionAfter a.search.session) := by
  have hidle : a.search.isSearching = false := Search.isSearching_eq_false_iff.mpr h
  have hpresented : a.presented.search.phase = .idle := h
  rw [asked, hidle, tell_of_opens hpresented he, awaiting_presented]
  exact settle_tell_queryChanged (a := a.opening _) rfl rfl _

/-- During a search it makes no difference that one is asked for. -/
lemma asked_of_searching (h : a.search.isSearching = true) (e : SearchEvent) : a.asked e = a :=
  if_pos h

/-! ## Using the picker -/

/-- The program after the line of input was changed. -/
def retyped (a : App) (input : InputLine) : App :=
  { a with picker := { a.picker with input } }.answered input.text

/-- The program after the entry with the given index became active. -/
def focused (a : App) (i : Nat) : App :=
  { a with
    picker := { a.picker with active := some i, events := [] }
    viewer := a.viewer.lookAt { a.picker with active := some i }.activeItems }

lemma settle_noteValue (h : a.search.phase = .searching saved accepted)
    (hevents : a.picker.events = []) (input : InputLine) :
    { a with picker := { a.picker with input }.noteValue }.settle = a.retyped input := by
  have hnote : { a.picker with input }.noteValue.events = [.valueChanged input.text] := by
    simp [Picker.noteValue, Picker.note, Picker.value, hevents]
  exact settle_valueChanged (by exact h) hnote

lemma settle_setActiveIndex (h : a.search.phase = .searching saved accepted)
    (hevents : a.picker.events = []) (i : Nat) :
    { a with picker := a.picker.setActiveIndex i }.settle = a.focused i := by
  have hnote : (a.picker.setActiveIndex i).events =
      [.activeChanged { a.picker with active := some i }.activeItems] := by
    simp [Picker.setActiveIndex, Picker.note, hevents]
  exact settle_activeChanged (by exact h) hnote

/-- Nothing is delivered if there are no notes. -/
lemma settle_of_nil (h : a.picker.events = []) : a.settle = a := deliver_of_nil h _

/-! ## The effects of commands -/

/-- No note of the picker is left, its active entry is one of its list, and it is visible if and
only if a search goes on, in which no match has been accepted. -/
structure Quiet (a : App) : Prop where
  events_nil : a.picker.events = []
  visible_iff : a.picker.visible = true ↔ a.search.isSearching = true
  not_accepted : ∀ saved accepted, a.search.phase = .searching saved accepted → accepted = false
  sound : a.picker.Sound

namespace Quiet

omit [Regex.Engine] in
lemma idle (h : a.Quiet) (hv : a.picker.visible = false) : a.search.phase = .idle := by
  rw [← Search.isSearching_eq_false_iff, Bool.eq_false_iff, Ne, ← h.visible_iff, hv]
  decide

omit [Regex.Engine] in
lemma searching (h : a.Quiet) (hv : a.picker.visible = true) :
    ∃ saved, a.search.phase = .searching saved false := by
  obtain ⟨saved, accepted, hphase⟩ := Search.isSearching_iff.mp (h.visible_iff.mp hv)
  obtain rfl := h.not_accepted saved accepted hphase
  exact ⟨saved, hphase⟩

end Quiet

/-- What a command can do to the program: nothing; make it quit; lead the reader elsewhere; begin a
search, which keeps the session or seeds one; change the text of the picker's line of input, or only
the place of the cursor in it; make another entry active; accept the active entry; end the search
without accepting one. -/
inductive Turn (a : App) : Command → App → Prop
  | stay (c : Command) : Turn a c a
  | quit : Turn a .quit { a with quit := true }
  | read (c : Command) (hidden : a.picker.visible = false) :
      Turn a c { a with viewer := a.viewer.obey a.document c }
  | begin (c : Command) (hidden : a.picker.visible = false) (session : Session)
      (kept : session = a.search.session ∨ ∃ seed, session = .seeded seed) :
      Turn a c (a.begun session)
  | retype (c : Command) (visible : a.picker.visible = true) (input : InputLine) :
      Turn a c (a.retyped input)
  | caret (c : Command) (visible : a.picker.visible = true) (input : InputLine)
      (same : input.text = a.picker.value) :
      Turn a c { a with picker := { a.picker with input } }
  | focus (c : Command) (visible : a.picker.visible = true) (i : Nat)
      (lt : i < a.picker.items.length) : Turn a c (a.focused i)
  | commit (visible : a.picker.visible = true) (entry : Candidate)
      (mem : entry ∈ a.picker.items) (active : a.picker.activeItems = [entry]) :
      Turn a .enter ({ a with picker := { a.picker with selected := [entry] } }.committed entry)
  | cancel (visible : a.picker.visible = true) (saved : SavedView)
      (searching : a.search.phase = .searching saved false) :
      Turn a .escape (a.cancelled saved)

lemma handle_of_visible (h : a.picker.events = []) (hv : a.picker.visible = true)
    (hc : c ≠ .quit) : a.handle c = { a with picker := a.picker.obey c }.settle := by
  cases c with
  | quit => exact absurd rfl hc
  | resize width height =>
    -- the picker would do nothing about it either
    exact (settle_of_nil h).symm
  | _ => simp [handle, hv]

lemma handle_of_hidden (hv : a.picker.visible = false) (hquit : c ≠ .quit) (hsearch : c ≠ .search)
    (hword : c ≠ .searchWord) :
    a.handle c = { a with viewer := a.viewer.obey a.document c } := by
  cases c with
  | quit => exact absurd rfl hquit
  | search => exact absurd rfl hsearch
  | searchWord => exact absurd rfl hword
  | resize width height => rfl
  | _ => simp [handle, hv]

lemma handle_search (hv : a.picker.visible = false) : a.handle .search = a.asked .opened := by
  have hopen : a.openSearch = a.asked .opened := rfl
  simpa [handle, hv] using hopen

lemma handle_searchWord (hv : a.picker.visible = false) :
    a.handle .searchWord = a.asked (.openedWith (a.document.seed a.viewer.selection)) := by
  have hopen (seed : Text) : a.openSearchWith seed = a.asked (.openedWith seed) := rfl
  simpa [handle, hv] using hopen (a.document.seed a.viewer.selection)

lemma handle_escape (h : a.search.phase = .searching saved false) (hevents : a.picker.events = [])
    (hv : a.picker.visible = true) : a.handle .escape = a.cancelled saved := by
  have hhide : a.picker.hide = { a.picker with visible := false, events := [.hidden] } := by
    simp [Picker.hide, hv, Picker.note, hevents]
  rw [handle_of_visible hevents hv (by decide), Picker.obey, hhide]
  exact settle_hidden (by exact h) rfl rfl

/-- An entry is accepted if one is active. -/
lemma handle_enter (h : a.search.phase = .searching saved false) (hevents : a.picker.events = [])
    (hv : a.picker.visible = true) {entry : Candidate} (hactive : a.picker.activeItems = [entry]) :
    a.handle .enter =
      { a with picker := { a.picker with selected := [entry] } }.committed entry := by
  have hnote : (Picker.note { a.picker with selected := [entry] } .accepted).events =
      [.accepted] := by
    simp [Picker.note, hevents]
  rw [handle_of_visible hevents hv (by decide), Picker.obey, hactive]
  exact settle_accepted_cons (by exact h) hnote (by exact hv) rfl

/-- Without an active entry there is nothing to accept. -/
lemma handle_enter_of_nil (h : a.Quiet) (hv : a.picker.visible = true)
    (hactive : a.picker.activeItems = []) : a.handle .enter = a := by
  have hitems : a.picker.items = [] := h.sound.activeItems_eq_nil_iff.mp hactive
  have hselected : a.picker.selected = [] := by
    rw [List.eq_nil_iff_forall_not_mem]
    intro c hc
    simpa [hitems] using h.sound.selected_mem c hc
  have hpicker : { a.picker with selected := [], events := [] } = a.picker := by
    rw [← hselected, ← h.events_nil]
  rw [handle_of_visible h.events_nil hv (by decide), Picker.obey, hactive,
    settle_accepted_nil (by simp [Picker.note, h.events_nil]) rfl]
  exact congrArg (fun picker => { a with picker }) hpicker

/-! ## Every command is a turn -/

lemma turn_asked (h : a.Quiet) {e : SearchEvent} (he : e.opens = true) : Turn a c (a.asked e) := by
  cases hv : a.picker.visible with
  | true =>
    rw [asked_of_searching (h.visible_iff.mp hv)]
    exact .stay c
  | false =>
    rw [asked_of_idle (h.idle hv) he]
    exact .begin c hv _ (e.sessionAfter_eq_or _)

lemma turn_moveActive (h : a.Quiet) (hv : a.picker.visible = true) (goal : Nat → Nat) :
    Turn a c { a with picker := a.picker.moveActive goal }.settle := by
  obtain ⟨saved, hphase⟩ := h.searching hv
  rcases a.picker.moveActive_eq_or goal with hsame | ⟨i, hlt, hmove⟩
  · rw [hsame, settle_of_nil h.events_nil]
    exact .stay c
  · rw [hmove, settle_setActiveIndex hphase h.events_nil]
    exact .focus c hv i hlt

lemma turn_edit (h : a.Quiet) (hv : a.picker.visible = true) (input : InputLine) :
    Turn a c { a with picker := { a.picker with input }.noteValue }.settle := by
  obtain ⟨saved, hphase⟩ := h.searching hv
  rw [settle_noteValue hphase h.events_nil]
  exact .retype c hv input

lemma turn_caret (h : a.Quiet) (hv : a.picker.visible = true) {input : InputLine}
    (hinput : input.text = a.picker.input.text) :
    Turn a c { a with picker := { a.picker with input } }.settle := by
  rw [settle_of_nil (by exact h.events_nil)]
  exact .caret c hv input hinput

lemma turn_handle_of_visible (h : a.Quiet) (hv : a.picker.visible = true) (hc : c ≠ .quit) :
    Turn a c (a.handle c) := by
  have hstay : Turn a c { a with picker := a.picker }.settle := by
    rw [settle_of_nil h.events_nil]
    exact .stay c
  obtain ⟨saved, hphase⟩ := h.searching hv
  have hobey := handle_of_visible h.events_nil hv hc
  cases c with
  | enter =>
    rcases a.picker.activeItems_eq_nil_or with hnil | ⟨entry, hmem, hactive⟩
    · rw [handle_enter_of_nil h hv hnil]
      exact .stay .enter
    · rw [handle_enter hphase h.events_nil hv hactive]
      exact .commit hv entry hmem hactive
  | escape =>
    rw [handle_escape hphase h.events_nil hv]
    exact .cancel hv saved hphase
  | type c =>
    rw [hobey]
    exact turn_edit h hv _
  | backspace =>
    rw [hobey, Picker.obey, Picker.backspace]
    cases a.picker.input.erase? with
    | none => exact hstay
    | some input => exact turn_edit h hv input
  | move d =>
    rw [hobey]
    cases d with
    | up => exact turn_moveActive h hv _
    | down => exact turn_moveActive h hv _
    | left => exact turn_caret h hv a.picker.input.text_left
    | right => exact turn_caret h hv a.picker.input.text_right
  | pageUp =>
    rw [hobey]
    exact turn_moveActive h hv _
  | pageDown =>
    rw [hobey]
    exact turn_moveActive h hv _
  | _ =>
    rw [hobey]
    exact hstay

/-- **What a command does.**  While everything is quiet, every command is a turn. -/
lemma turn_handle (h : a.Quiet) (c : Command) : Turn a c (a.handle c) := by
  by_cases hquit : c = .quit
  · subst hquit
    exact .quit
  cases hv : a.picker.visible with
  | true => exact turn_handle_of_visible h hv hquit
  | false =>
    by_cases hsearch : c = .search
    · subst hsearch
      rw [handle_search hv]
      exact turn_asked h rfl
    by_cases hword : c = .searchWord
    · subst hword
      rw [handle_searchWord hv]
      exact turn_asked h rfl
    rw [handle_of_hidden hv hquit hsearch hword]
    exact .read c hv

/-! ## Quiet after a turn -/

omit [Regex.Engine] in
lemma quiet_of_hidden (hevents : a.picker.events = []) (hv : a.picker.visible = false)
    (hphase : a.search.phase = .idle) (hsound : a.picker.Sound) : a.Quiet where
  events_nil := hevents
  visible_iff := by simp [hv, Search.isSearching_eq_false_iff.mpr hphase]
  not_accepted := by simp [hphase]
  sound := hsound

lemma quiet_answered (hv : a.picker.visible = true)
    (hphase : a.search.phase = .searching saved false) (query : Text) :
    (a.answered query).Quiet where
  events_nil := rfl
  visible_iff := by
    have hvisible : (a.answered query).picker.visible = true := hv
    simp only [hvisible, true_iff]
    exact Search.isSearching_iff.mpr ⟨saved, false, hphase⟩
  not_accepted := by
    intro saved' accepted' h
    have hsame := (h : a.search.phase = _).symm.trans hphase
    exact (Phase.searching.inj hsame).2
  sound := by
    have hsound : (a.listed query).Sound :=
      Picker.sound_showing (a.search.mem_listing_of_chosen a.document query)
    exact hsound.of_eq rfl rfl rfl

lemma Turn.quiet (h : a.Quiet) (hturn : Turn a c b) : b.Quiet := by
  cases hturn with
  | stay => exact h
  | quit => exact ⟨h.events_nil, h.visible_iff, h.not_accepted, h.sound⟩
  | read => exact ⟨h.events_nil, h.visible_iff, h.not_accepted, h.sound⟩
  | begin _ hidden session kept => exact quiet_answered (a := a.opening session) rfl rfl _
  | retype _ hv input =>
    obtain ⟨saved, hphase⟩ := h.searching hv
    exact quiet_answered (by exact hv) (by exact hphase) _
  | caret _ hv input same =>
    exact ⟨h.events_nil, h.visible_iff, h.not_accepted, h.sound.of_eq rfl rfl rfl⟩
  | focus _ hv i lt =>
    refine ⟨rfl, h.visible_iff, h.not_accepted, ?_, ?_, h.sound.selected_mem⟩
    · have hne : a.picker.items ≠ [] := List.ne_nil_of_length_pos (Nat.zero_lt_of_lt lt)
      simpa [focused] using hne
    · intro j hj
      obtain rfl : i = j := Option.some.inj hj
      exact lt
  | commit hv entry mem active =>
    -- the entry that was accepted is still selected
    refine quiet_of_hidden rfl rfl rfl ⟨h.sound.active_eq_none_iff, h.sound.active_lt, ?_⟩
    intro e he
    obtain rfl : e = entry := by simpa [committed] using he
    exact mem
  | cancel hv saved searching => exact quiet_of_hidden rfl rfl rfl (h.sound.of_eq rfl rfl rfl)

end App

end LineSearch
