/-
# Typing a query

A program is begun with any document, a search is opened in it, and then keys are pressed that edit
the line of input.  The line of input is the draft that `Draft.runInPicker` makes of the
placeholder, and the list is that of its text.  So what is listed is what the user searched for just
as long as the keystrokes spare the placeholder.  The main result is `forall_shows_typed_iff`.
-/
import LineSearch.Proofs.App.Rest
import LineSearch.Proofs.Picker.Typing
import LineSearch.Regex.Matching

namespace LineSearch

/-- The report of the terminal that a key was pressed. -/
def Keystroke.report (k : Keystroke) : TerminalEvent := .key k.key.1 k.key.2 .press

namespace App

section

variable [Regex.Engine] {a : App} {d : Draft}

/-! ## Editing the line of input -/

/-- The line of input of a program in which a search goes on is that of a draft. -/
structure Drafts (a : App) (d : Draft) : Prop where
  quiet : a.Quiet
  visible : a.picker.visible = true
  input_eq : a.picker.input = .ofDraft d

/-- The program does with the line of input what the picker does, and stays in the search. -/
lemma input_handle (h : a.Quiet) (hv : a.picker.visible = true) (k : Keystroke) :
    (a.handle k.command).picker.input = (a.picker.obey k.command).input ∧
      (a.handle k.command).picker.visible = true := by
  obtain ⟨saved, hphase⟩ := h.searching hv
  have hkept : { a with picker := a.picker }.settle = a := settle_of_nil h.events_nil
  have hquit : k.command ≠ .quit := by cases k <;> simp [Keystroke.command]
  rw [handle_of_visible h.events_nil hv hquit]
  cases k with
  | char c shift =>
    have hretyped := settle_noteValue hphase h.events_nil (a.picker.obey (.type c)).input
    exact ⟨congrArg (fun b => b.picker.input) hretyped,
      (congrArg (fun b => b.picker.visible) hretyped).trans hv⟩
  | backspace m =>
    simp only [Keystroke.command, Picker.obey, Picker.backspace]
    cases a.picker.input.erase? with
    | none =>
      -- there is nothing before the cursor
      rw [hkept]
      exact ⟨rfl, hv⟩
    | some input =>
      have hretyped := settle_noteValue hphase h.events_nil input
      simp only [hretyped]
      exact ⟨rfl, hv⟩
  | left m | right m =>
    rw [settle_of_nil (by exact h.events_nil)]
    exact ⟨rfl, hv⟩

namespace Drafts

/-- A key is pressed. -/
lemma dispatch (h : a.Drafts d) (k : Keystroke) :
    (a.dispatch k.report).Drafts (d.obeyInPicker k.command) := by
  have hcommand : a.commandOf k.report = some k.command := by
    simp only [Keystroke.report, commandOf, h.visible, if_true]
    exact k.pickerKeyCommand_key
  have hdispatch : a.dispatch k.report = a.handle k.command := by
    rw [App.dispatch, hcommand]
  obtain ⟨hinput, hvisible⟩ := input_handle h.quiet h.visible k
  rw [hdispatch]
  exact ⟨(turn_handle h.quiet _).quiet h.quiet, hvisible,
    hinput.trans (Picker.input_obey h.input_eq _)⟩

/-- Several keys are pressed, one after the other. -/
lemma run (h : a.Drafts d) (strokes : List Keystroke) :
    (a.run (strokes.map fun k => .report k.report)).Drafts (d.runInPicker strokes) := by
  induction strokes generalizing a d with
  | nil => exact h
  | cons k strokes ih => exact ih (h.dispatch k)

end Drafts

/-! ## What is typed into a new search -/

/-- A program that was begun with a document, in which a search was opened and some keys were
pressed. -/
def typed (document : Document) (theme : Theme) (showLineNumbers : Bool) (keymap : Keymap)
    (strokes : List Keystroke) : App :=
  ((new document theme showLineNumbers keymap).handle .search).run
    (strokes.map fun k => .report k.report)

/-- The picker shows what the user typed: first the placeholder and no list, and later the text that
was typed and the list of this text. -/
structure ShowsTyped (a : App) (strokes : List Keystroke) : Prop where
  value_eq : a.picker.value = wantedText strokes
  items_eq : a.picker.items =
    if anyTyped strokes then Search.listing a.document (typedText strokes) else []

variable (document : Document) (theme : Theme) (showLineNumbers : Bool) (keymap : Keymap)
  (strokes : List Keystroke)

lemma drafts_search :
    ((new document theme showLineNumbers keymap).handle .search).Drafts .prompt := by
  set a := new document theme showLineNumbers keymap
  have hquiet : a.Quiet := (atRest_new document theme showLineNumbers keymap).toQuiet
  have hbegun : a.handle .search = a.begun {} := by
    rw [handle_search rfl, asked_of_idle rfl rfl]
    rfl
  refine ⟨(turn_handle hquiet .search).quiet hquiet, ?_, ?_⟩
  · rw [hbegun]
    rfl
  · rw [hbegun]
    exact InputLine.ofText_eq_ofDraft Query.placeholder

lemma drafts_typed :
    (typed document theme showLineNumbers keymap strokes).Drafts
      (Draft.prompt.runInPicker strokes) :=
  (drafts_search document theme showLineNumbers keymap).run strokes

lemma value_typed :
    (typed document theme showLineNumbers keymap strokes).picker.value =
      (Draft.prompt.runInPicker strokes).text := by
  rw [Picker.value, (drafts_typed document theme showLineNumbers keymap strokes).input_eq,
    InputLine.text_ofDraft]

/-- What stands in the picker is always what its list is for. -/
lemma items_typed :
    (typed document theme showLineNumbers keymap strokes).picker.items =
      Search.listing (typed document theme showLineNumbers keymap strokes).document
        (typed document theme showLineNumbers keymap strokes).picker.value := by
  have hnew := atRest_new document theme showLineNumbers keymap
  have hrest : (typed document theme showLineNumbers keymap strokes).AtRest :=
    ((turn_handle hnew.toQuiet .search).atRest hnew).run _
  exact hrest.items_eq (drafts_typed document theme showLineNumbers keymap strokes).visible

/-- The placeholder is never searched for. -/
lemma listing_placeholder : Search.listing document Query.placeholder = [] := by
  have hplaceholder : Query.isSearchable Query.placeholder = false := by decide
  simp [Search.listing, hplaceholder]

/-- The list is right if the text is. -/
lemma showsTyped_iff :
    (typed document theme showLineNumbers keymap strokes).ShowsTyped strokes ↔
      (Draft.prompt.runInPicker strokes).text = wantedText strokes := by
  rw [← value_typed document theme showLineNumbers keymap]
  refine ⟨ShowsTyped.value_eq, fun hvalue => ⟨hvalue, ?_⟩⟩
  rw [items_typed, hvalue, wantedText]
  split
  · rfl
  · exact listing_placeholder _

/-- **Typing a query.**  Let a program be begun with any document, let a search be opened in it, and
let any keys be pressed that edit a line.  The picker shows what the user typed after each of them,
and lists nothing for another text, if and only if the keystrokes spare the placeholder: nothing of
it is removed, and no character is added to a text of the user that looks like it. -/
theorem forall_shows_typed_iff :
    (∀ before, before <+: strokes →
      (typed document theme showLineNumbers keymap before).ShowsTyped before) ↔
        SparePlaceholder strokes := by
  simp only [showsTyped_iff]
  exact forall_text_eq_iff

end

attribute [local instance] Regex.Engine.tables

/-- Nothing was typed, but one character of the placeholder was removed: now its rest is searched
for, and is found in a line. -/
theorem typed_backspace_lists :
    let a := typed (.ofText Query.placeholder) .default true {} [.backspace {}]
    anyTyped [.backspace {}] = false ∧ a.picker.value = "type 2 or more chars to searc".toList ∧
      a.picker.items.map Candidate.label = [Candidate.labelOf 0 Query.placeholder] := by
  decide

end App

end LineSearch
