/-
# The picker's line of input as a draft

Whatever is done with a picker, its line of input is a draft: a text before the cursor and a text
after it (`Edits`).  What the user types changes the draft as in a plain line, except that the first
character replaces the placeholder; a text that is set is put before the cursor; and nothing else
changes it.  A new value is noted for what is typed and for what is removed, and for nothing else.

What the user commands can also be said by the bytes of the text and the indices of the list, and
then it might fail (`Picker.obey?`).  It never does, since the cursor always stands between two
characters and the active index is in the list.  The main result is `edits_performAll`.
-/
import LineSearch.Proofs.InputLine.Bytes
import LineSearch.Proofs.Picker.Typing

namespace LineSearch

/-! ## What is done with a picker -/

/-- Something that is done with a picker. -/
inductive PickerAction where
  /-- The user commands something. -/
  | command (c : Command)
  /-- The search calls for something. -/
  | call (c : PickerCall)
  | present
  /-- The oldest note is taken from it. -/
  | takeNote

/-- Those of some notes that an action leaves. -/
def PickerAction.keep (notes : List PickerEvent) : PickerAction → List PickerEvent
  | .present => []
  | .takeNote => notes.tail
  | .command _ | .call _ => notes

/-- The value that a note reports. -/
def PickerEvent.value? : PickerEvent → Option Text
  | .valueChanged value => some value
  | _ => none

namespace Picker

/-- The picker after an action. -/
def perform (p : Picker) : PickerAction → Picker
  | .command c => p.obey c
  | .call c => p.apply c
  | .present => p.present
  | .takeNote => { p with events := p.events.tail }

/-- The picker after several actions. -/
def performAll (p : Picker) (actions : List PickerAction) : Picker := actions.foldl perform p

end Picker

namespace Draft

/-- What an action makes of the draft in the picker. -/
def perform (d : Draft) : PickerAction → Draft
  | .command c => d.obeyInPicker c
  | .call (.setValue value) => ⟨value, []⟩
  | .call _ | .present | .takeNote => d

/-- The draft after several actions. -/
def performAll (d : Draft) (actions : List PickerAction) : Draft := actions.foldl perform d

/-- The values that are reported of an action. -/
def reported (d : Draft) : PickerAction → List Text
  | .command (.type c) => [(d.obeyInPicker (.type c)).text]
  | .command .backspace => if d.before = [] then [] else [(d.obeyInPicker .backspace).text]
  | _ => []

end Draft

/-! ## Steps by bytes and indices -/

namespace Picker

/-- The active candidate, if there is one; `none` if the active index is not in the list. -/
def activeItems? (p : Picker) : Option (List Candidate) :=
  match p.active with
  | some i => p.items[i]?.map fun c => [c]
  | none => some []

/-- Makes the candidate with the given index active, and notes it. -/
def setActiveIndex? (p : Picker) (i : Nat) : Option Picker :=
  let p := { p with active := some i }
  p.activeItems?.map fun entries => p.note (.activeChanged entries)

/-- Makes the candidate active that `goal` gives for the index of the active one. -/
def moveActive? (p : Picker) (goal : Nat → Nat) : Option Picker :=
  if p.items = [] then some p
  else
    let next :=
      match p.active with
      | some i => min (goal i) (p.items.length - 1)
      | none => 0
    if p.active = some next then some p else p.setActiveIndex? next

/-- Types a character; the first one replaces the placeholder. -/
def typeChar? (p : Picker) (c : Char) : Option Picker :=
  let input := if p.showsPrompt then {} else p.input
  (input.insertByBytes? c).map fun input => { p with input }.noteValue

/-- Removes the character before the cursor, unless the cursor is at the first byte. -/
def backspace? (p : Picker) : Option Picker :=
  if 0 < p.input.cursor then
    p.input.eraseByBytes?.map fun input => { p with input }.noteValue
  else some p

/-- What the user commands, done by the bytes of the line of input and the indices of the list;
`none` if a byte is not the first one of a character or an index not one of the list. -/
def obey? (p : Picker) : Command → Option Picker
  | .type c => p.typeChar? c
  | .backspace => p.backspace?
  | .move .left => p.input.leftByBytes?.map fun input => { p with input }
  | .move .right => p.input.rightByBytes?.map fun input => { p with input }
  | .move .up => p.moveActive? (· - 1)
  | .move .down => p.moveActive? (· + 1)
  | .pageUp => p.moveActive? (· - pageStep)
  | .pageDown => p.moveActive? (· + pageStep)
  | .enter => p.activeItems?.map fun entries => { p with selected := entries }.note .accepted
  | .escape => some p.hide
  | .quit | .search | .searchWord | .top | .bottom | .resize _ _ => some p

/-- The column of the text cursor, counted in the text up to its byte. -/
def cursorColumn? (p : Picker) : Option Nat :=
  if p.showsPrompt then some 0 else (p.input.text.upToByte? p.input.cursor).map List.length

/-! ### The list -/

/-- The active index is one of the list. -/
def ActiveInList (p : Picker) : Prop := ∀ i, p.active = some i → i < p.items.length

variable {p : Picker} {d : Draft}

lemma activeItems?_eq (h : p.ActiveInList) : p.activeItems? = some p.activeItems := by
  unfold activeItems? activeItems
  cases hactive : p.active with
  | none => rfl
  | some i => simp [h i hactive]

lemma activeInList_setActiveIndex {i : Nat} (hi : i < p.items.length) :
    (p.setActiveIndex i).ActiveInList := by
  intro j hj
  obtain rfl : i = j := Option.some.inj hj
  exact hi

lemma setActiveIndex?_eq {i : Nat} (hi : i < p.items.length) :
    p.setActiveIndex? i = some (p.setActiveIndex i) := by
  have hin : ({ p with active := some i } : Picker).ActiveInList := activeInList_setActiveIndex hi
  rw [setActiveIndex?, activeItems?_eq hin]
  rfl

/-- A move never leaves the list. -/
lemma moveActive?_eq (p : Picker) (goal : Nat → Nat) :
    p.moveActive? goal = some (p.moveActive goal) := by
  by_cases hitems : p.items = []
  · simp [moveActive?, moveActive, hitems]
  have hpos : 0 < p.items.length := List.length_pos_iff.mpr hitems
  obtain ⟨next, hlt, hmove, hmove?⟩ : ∃ next < p.items.length,
      p.moveActive goal = (if p.active = some next then p else p.setActiveIndex next) ∧
        p.moveActive? goal =
          if p.active = some next then some p else p.setActiveIndex? next := by
    cases hactive : p.active with
    | none =>
      refine ⟨0, hpos, ?_, ?_⟩
      · simp [moveActive, hitems, hactive]
      · simp [moveActive?, hitems, hactive]
    | some i =>
      refine ⟨min (goal i) (p.items.length - 1), by omega, ?_, ?_⟩
      · simp [moveActive, hitems, hactive]
      · simp [moveActive?, hitems, hactive]
  rw [hmove, hmove?]
  split
  · rfl
  · exact setActiveIndex?_eq hlt

lemma activeInList_moveActive (h : p.ActiveInList) (goal : Nat → Nat) :
    (p.moveActive goal).ActiveInList := by
  rcases p.moveActive_eq_or goal with hsame | ⟨i, hi, hmove⟩
  · rwa [hsame]
  · rw [hmove]
    exact activeInList_setActiveIndex hi

lemma activeInList_hide (h : p.ActiveInList) : p.hide.ActiveInList := by
  unfold hide
  split <;> exact h

lemma activeInList_obey (h : p.ActiveInList) (c : Command) : (p.obey c).ActiveInList := by
  cases c with
  | backspace =>
    rw [obey, backspace]
    cases p.input.erase? <;> exact h
  | move direction =>
    cases direction with
    | up | down => exact activeInList_moveActive h _
    | left | right => exact h
  | pageUp | pageDown => exact activeInList_moveActive h _
  | escape => exact activeInList_hide h
  | _ => exact h

lemma activeInList_apply (h : p.ActiveInList) (c : PickerCall) : (p.apply c).ActiveInList := by
  cases c with
  | setItems items =>
    rw [apply, setItems]
    split
    · intro i hi
      exact absurd hi (by simp)
    · rename_i hne
      exact activeInList_setActiveIndex (List.length_pos_iff.mpr hne)
  | setActive entries =>
    rw [apply, setActive]
    split
    · rename_i i hfound
      obtain ⟨wanted, -, hwanted⟩ := Option.bind_eq_some_iff.mp hfound
      obtain ⟨hi, -⟩ := List.findIdx?_eq_some_iff_getElem.mp hwanted
      exact activeInList_setActiveIndex hi
    · exact h
  | hide => exact activeInList_hide h
  | _ => exact h

/-! ### Notes -/

/-- The notes of the picker are the given ones and then some more, which report the given values. -/
def Reports (p : Picker) (notes : List PickerEvent) (values : List Text) : Prop :=
  ∃ queued, p.events = notes ++ queued ∧ queued.filterMap PickerEvent.value? = values

lemma Reports.of_eq {notes : List PickerEvent} (h : p.events = notes) : p.Reports notes [] :=
  ⟨[], by simpa using h, rfl⟩

lemma reports_note (p : Picker) (e : PickerEvent) :
    (p.note e).Reports p.events (e.value?.toList) := by
  refine ⟨[e], rfl, ?_⟩
  cases he : e.value? <;> simp [he]

lemma reports_moveActive (p : Picker) (goal : Nat → Nat) :
    (p.moveActive goal).Reports p.events [] := by
  rcases p.moveActive_eq_or goal with hsame | ⟨i, -, hmove⟩
  · exact .of_eq (by rw [hsame])
  · rw [hmove]
    exact reports_note { p with active := some i } (.activeChanged _)

lemma reports_hide (p : Picker) : p.hide.Reports p.events [] := by
  unfold hide
  split
  · exact reports_note { p with visible := false } .hidden
  · exact .of_eq rfl

/-- A new value is noted for what is typed and for what is removed. -/
lemma reports_obey (h : p.input = .ofDraft d) (c : Command) :
    (p.obey c).Reports p.events (d.reported (.command c)) := by
  have hvalue : (p.obey c).value = (d.obeyInPicker c).text := by
    rw [value, input_obey h, InputLine.text_ofDraft]
  cases c with
  | type c =>
    rw [Draft.reported, ← hvalue]
    exact reports_note { p with input := (p.obey (.type c)).input } (.valueChanged _)
  | backspace =>
    have herase := InputLine.erase?_ofDraft d
    rw [← h] at herase
    rw [Draft.reported, ← hvalue]
    by_cases hd : d.before = []
    · rw [if_pos hd] at herase ⊢
      exact .of_eq (by rw [obey, backspace, herase])
    · rw [if_neg hd] at herase ⊢
      rw [obey, backspace, herase]
      exact reports_note { p with input := .ofDraft (d.obey .backspace) } (.valueChanged _)
  | move direction =>
    cases direction with
    | up | down => exact reports_moveActive p _
    | left | right => exact .of_eq rfl
  | pageUp | pageDown => exact reports_moveActive p _
  | enter => exact reports_note { p with selected := p.activeItems } .accepted
  | escape => exact reports_hide p
  | _ => exact .of_eq rfl

/-- The search does not let the picker note any value. -/
lemma reports_apply (p : Picker) (c : PickerCall) : (p.apply c).Reports p.events [] := by
  cases c with
  | setItems items =>
    rw [apply, setItems]
    split
    · exact .of_eq rfl
    · exact reports_note { p with items, active := some 0 } (.activeChanged _)
  | setActive entries =>
    rw [apply, setActive]
    split
    · rename_i i _
      exact reports_note { p with active := some i } (.activeChanged _)
    · exact .of_eq rfl
  | hide => exact reports_hide p
  | _ => exact .of_eq rfl

/-! ## The draft of a picker -/

/-- The line of input is that of a draft, and the active index is one of the list. -/
structure Edits (p : Picker) (d : Draft) : Prop where
  input_eq : p.input = .ofDraft d
  activeInList : p.ActiveInList

namespace Edits

/-- No step of what the user commands fails. -/
lemma obey?_eq (h : p.Edits d) (c : Command) : p.obey? c = some (p.obey c) := by
  cases c with
  | type c =>
    obtain ⟨d', hd'⟩ : ∃ d', (if p.showsPrompt then {} else p.input) = InputLine.ofDraft d' := by
      split
      · exact ⟨{}, rfl⟩
      · exact ⟨d, h.input_eq⟩
    simp only [obey?, typeChar?, obey, typeChar, hd', InputLine.insertByBytes?_ofDraft]
    rfl
  | backspace =>
    simp only [obey?, backspace?, obey, backspace, h.input_eq, InputLine.erase?_ofDraft,
      InputLine.cursor_ofDraft_pos_iff]
    by_cases hd : d.before = []
    · simp [hd]
    · simp [hd, InputLine.eraseByBytes?_ofDraft d hd]
  | move direction =>
    cases direction with
    | left =>
      simp only [obey?, obey, h.input_eq, InputLine.leftByBytes?_ofDraft]
      rfl
    | right =>
      simp only [obey?, obey, h.input_eq, InputLine.rightByBytes?_ofDraft]
      rfl
    | up | down => exact p.moveActive?_eq _
  | pageUp | pageDown => exact p.moveActive?_eq _
  | enter =>
    rw [obey?, activeItems?_eq h.activeInList]
    rfl
  | _ => rfl

lemma cursorColumn?_eq (h : p.Edits d) : p.cursorColumn? = some p.cursorColumn := by
  have hcolumn : p.input.column = d.before.length := by
    rw [h.input_eq, InputLine.column, InputLine.split?_ofDraft]
  rw [cursorColumn?, cursorColumn, hcolumn, h.input_eq, InputLine.upToByte?_ofDraft]
  split <;> rfl

/-- After every action the line of input is that of the draft. -/
lemma perform (h : p.Edits d) (a : PickerAction) : (p.perform a).Edits (d.perform a) := by
  cases a with
  | command c => exact ⟨input_obey h.input_eq c, activeInList_obey h.activeInList c⟩
  | call c =>
    refine ⟨?_, activeInList_apply h.activeInList c⟩
    cases c with
    | setValue value => exact InputLine.ofText_eq_ofDraft value
    | setItems items =>
      have hsame : (p.setItems items).input = p.input := by
        rw [setItems]
        split <;> rfl
      exact hsame.trans h.input_eq
    | setActive entries =>
      have hsame : (p.setActive entries).input = p.input := by
        rw [setActive]
        split <;> rfl
      exact hsame.trans h.input_eq
    | setSelected entries => exact h.input_eq
    | hide => exact p.input_hide.trans h.input_eq
  | present | takeNote => exact ⟨h.input_eq, h.activeInList⟩

lemma performAll (h : p.Edits d) (actions : List PickerAction) :
    (p.performAll actions).Edits (d.performAll actions) := by
  induction actions generalizing p d with
  | nil => exact h
  | cons a actions ih => exact ih (h.perform a)

/-- What is noted at an action. -/
lemma reports_perform (h : p.Edits d) (a : PickerAction) :
    (p.perform a).Reports (a.keep p.events) (d.reported a) := by
  cases a with
  | command c => exact reports_obey h.input_eq c
  | call c => exact reports_apply p c
  | present | takeNote => exact .of_eq rfl

end Edits

/-- **The picker's line of input is a draft.**  Begin with a new picker and the empty draft, and let
any actions be performed on both.

* The value is the text of the draft, and the cursor is as many bytes behind its beginning as the
  text before the cursor has.
* Whatever is done next, a value is noted just if a character is typed or removed, and it is the
  text that the draft has then.
* Whatever is commanded next can be done by bytes and indices: at every byte that is asked for the
  text can be cut, and every index is one of the list.  So can the column of the cursor be found. -/
theorem edits_performAll (actions : List PickerAction) :
    let p := ({} : Picker).performAll actions
    let d := ({} : Draft).performAll actions
    p.value = d.before ++ d.after ∧ p.input.cursor = d.before.byteLength ∧
      (∀ a, (p.perform a).Reports (a.keep p.events) (d.reported a)) ∧
      (∀ c, p.obey? c = some (p.obey c)) ∧ p.cursorColumn? = some p.cursorColumn := by
  intro p d
  have hnew : ({} : Picker).Edits {} := ⟨rfl, fun i hi => absurd hi (by simp)⟩
  have h : p.Edits d := hnew.performAll actions
  refine ⟨?_, ?_, h.reports_perform, h.obey?_eq, h.cursorColumn?_eq⟩
  · rw [value, h.input_eq]
    rfl
  · rw [h.input_eq]
    rfl

end Picker

end LineSearch
