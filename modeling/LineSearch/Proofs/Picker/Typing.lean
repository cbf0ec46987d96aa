/-
# What is typed into the picker

The placeholder stands in the line of input of the picker like a text.  A character that is typed
while the line looks like it replaces it (`Draft.obeyInPicker`); all other commands treat it as a
text of the user.  So what stands in the picker is what the user typed just as long as the
keystrokes spare the placeholder (`SparePlaceholder`): nothing of it is removed before a character
is typed, and no character is added to a text of the user that looks like it.  The main result is
`forall_text_eq_iff`.
-/
import LineSearch.Keymap
import LineSearch.Picker
import LineSearch.Proofs.InputLine
import LineSearch.Proofs.Picker.Listing
import Mathlib.Data.List.Induction
import Mathlib.Data.List.Infix

namespace LineSearch

/-- A press of a key that edits a line: a character, typed with or without the shift key, or one of
three other keys with any modifiers. -/
inductive Keystroke where
  | char (c : Char) (shift : Bool)
  | backspace (m : Modifiers)
  | left (m : Modifiers)
  | right (m : Modifiers)

namespace Keystroke

/-- The key that is pressed, with the modifiers that are held. -/
def key : Keystroke → Key × Modifiers
  | char c shift => (.char c, { shift })
  | backspace m => (.backspace, m)
  | left m => (.left, m)
  | right m => (.right, m)

/-- What is asked for while the picker is open. -/
def command : Keystroke → Command
  | char c _ => .type c
  | backspace _ => .backspace
  | left _ => .move .left
  | right _ => .move .right

lemma pickerKeyCommand_key (k : Keystroke) :
    Keymap.pickerKeyCommand k.key.1 k.key.2 = some k.command := by
  cases k with
  | char c shift => cases shift <;> rfl
  | _ => rfl

/-- Whether a character is typed. -/
def types : Keystroke → Bool
  | char _ _ => true
  | _ => false

end Keystroke

/-! ## Drafts in the picker -/

namespace Draft

/-- The placeholder as it first stands in the picker. -/
def prompt : Draft := ⟨Query.placeholder, []⟩

/-- What a command does to a draft in the picker: a character replaces a text that looks like the
placeholder. -/
def obeyInPicker (d : Draft) : Command → Draft
  | .type c => if d.text = Query.placeholder then ({} : Draft).obey (.type c) else d.obey (.type c)
  | c => d.obey c

/-- The draft after some keystrokes in a plain line. -/
def run (d : Draft) (strokes : List Keystroke) : Draft :=
  strokes.foldl (fun d k => d.obey k.command) d

/-- The draft after some keystrokes in the picker. -/
def runInPicker (d : Draft) (strokes : List Keystroke) : Draft :=
  strokes.foldl (fun d k => d.obeyInPicker k.command) d

lemma run_concat (d : Draft) (strokes : List Keystroke) (k : Keystroke) :
    d.run (strokes ++ [k]) = (d.run strokes).obey k.command := by
  simp [run]

lemma runInPicker_concat (d : Draft) (strokes : List Keystroke) (k : Keystroke) :
    d.runInPicker (strokes ++ [k]) = (d.runInPicker strokes).obeyInPicker k.command := by
  simp [runInPicker]

end Draft

namespace Picker

variable {p : Picker} {d : Draft}

lemma input_moveActive (p : Picker) (goal : Nat → Nat) : (p.moveActive goal).input = p.input := by
  rcases p.moveActive_eq_or goal with hsame | ⟨i, -, hmove⟩
  · rw [hsame]
  · rw [hmove]
    rfl

lemma input_hide (p : Picker) : p.hide.input = p.input := by
  unfold hide
  split <;> rfl

/-- What the picker does with its line of input is what is done with the draft. -/
lemma input_obey (h : p.input = .ofDraft d) (c : Command) :
    (p.obey c).input = .ofDraft (d.obeyInPicker c) := by
  have hvalue : p.value = d.text := by rw [value, h, InputLine.text_ofDraft]
  have hempty : ({} : InputLine) = .ofDraft {} := rfl
  cases c with
  | type c =>
    have hprompt : p.showsPrompt = true ↔ d.text = Query.placeholder := by
      rw [showsPrompt, hvalue, beq_iff_eq]
    have hinput : (p.obey (.type c)).input =
        (if p.showsPrompt then ({} : InputLine) else p.input).insert c := rfl
    rw [hinput, h, Draft.obeyInPicker]
    by_cases hd : d.text = Query.placeholder
    · rw [if_pos (hprompt.mpr hd), if_pos hd, hempty, InputLine.insert_ofDraft]
    · rw [if_neg (mt hprompt.mp hd), if_neg hd, InputLine.insert_ofDraft]
  | backspace =>
    have herase := InputLine.erase?_ofDraft d
    rw [← h] at herase
    by_cases hd : d.before = []
    · rw [if_pos hd] at herase
      have hsame : d.obeyInPicker .backspace = d := by
        obtain ⟨before, after⟩ := d
        obtain rfl : before = [] := hd
        rfl
      rw [hsame]
      simp only [obey, backspace, herase]
      exact h
    · rw [if_neg hd] at herase
      simp only [obey, backspace, herase]
      rfl
  | move direction =>
    cases direction with
    | left => exact (congrArg InputLine.left h).trans (InputLine.left_ofDraft d)
    | right => exact (congrArg InputLine.right h).trans (InputLine.right_ofDraft d)
    | up => exact (p.input_moveActive _).trans h
    | down => exact (p.input_moveActive _).trans h
  | pageUp => exact (p.input_moveActive _).trans h
  | pageDown => exact (p.input_moveActive _).trans h
  | escape => exact p.input_hide.trans h
  | _ => exact h

end Picker

/-! ## What the user typed -/

/-- Whether a character was typed. -/
def anyTyped (strokes : List Keystroke) : Bool := strokes.any Keystroke.types

/-- What the user typed: the text of a plain line, which was empty before the keystrokes. -/
def typedText (strokes : List Keystroke) : Text := (({} : Draft).run strokes).text

/-- What should stand in the picker: the placeholder as long as no character was typed, and then
what the user typed. -/
def wantedText (strokes : List Keystroke) : Text :=
  if anyTyped strokes then typedText strokes else Query.placeholder

/-- After the keystrokes, one more does not touch the placeholder: a character is not added to a
text of the user that looks like it, and nothing is removed before a character was typed, unless the
cursor stands in front. -/
def Spares (strokes : List Keystroke) : Keystroke → Prop
  | .char _ _ => anyTyped strokes = true → typedText strokes ≠ Query.placeholder
  | .backspace _ => anyTyped strokes = true ∨ (Draft.prompt.run strokes).before = []
  | _ => True

/-- None of the keystrokes touches the placeholder. -/
def SparePlaceholder (strokes : List Keystroke) : Prop :=
  ∀ before k, before ++ [k] <+: strokes → Spares before k

lemma anyTyped_concat (strokes : List Keystroke) (k : Keystroke) :
    anyTyped (strokes ++ [k]) = (anyTyped strokes || k.types) := by
  simp [anyTyped]

/-- As long as nothing was typed there is nothing to remove either. -/
lemma run_eq_of_not_anyTyped {strokes : List Keystroke} (h : anyTyped strokes = false) :
    ({} : Draft).run strokes = {} := by
  induction strokes using List.reverseRecOn with
  | nil => rfl
  | append_singleton strokes k ih =>
    rw [anyTyped_concat, Bool.or_eq_false_iff] at h
    rw [Draft.run_concat, ih h.1]
    cases k with
    | char c shift => exact absurd h.2 (by simp [Keystroke.types])
    | _ => rfl

/-- The draft in the picker is that of the user, or the placeholder as long as nothing was typed. -/
structure Agrees (strokes : List Keystroke) : Prop where
  of_typed : anyTyped strokes = true → Draft.prompt.runInPicker strokes = ({} : Draft).run strokes
  of_untyped : anyTyped strokes = false →
    Draft.prompt.runInPicker strokes = Draft.prompt.run strokes ∧
      (Draft.prompt.run strokes).text = Query.placeholder

namespace Agrees

variable {strokes : List Keystroke} {k : Keystroke}

lemma nil : Agrees [] where
  of_typed := by simp [anyTyped]
  of_untyped := fun _ => ⟨rfl, Query.placeholder.append_nil⟩

lemma text_eq (h : Agrees strokes) :
    (Draft.prompt.runInPicker strokes).text = wantedText strokes := by
  cases htyped : anyTyped strokes with
  | true => rw [h.of_typed htyped, wantedText, if_pos htyped, typedText]
  | false =>
    obtain ⟨hrun, htext⟩ := h.of_untyped htyped
    rw [hrun, htext, wantedText, htyped]
    rfl

/-- A keystroke that is neither a character nor replaces anything does the same to both drafts. -/
lemma concat_of_not_types (h : Agrees strokes) (hk : k.types = false)
    (htext : anyTyped strokes = false →
      ((Draft.prompt.run strokes).obey k.command).text = Query.placeholder) :
    Agrees (strokes ++ [k]) := by
  have hsame (d : Draft) : d.obeyInPicker k.command = d.obey k.command := by
    cases k with
    | char c shift => exact absurd hk (by simp [Keystroke.types])
    | _ => rfl
  constructor
  · intro htyped
    rw [anyTyped_concat, hk, Bool.or_false] at htyped
    rw [Draft.runInPicker_concat, Draft.run_concat, h.of_typed htyped, hsame]
  · intro huntyped
    rw [anyTyped_concat, hk, Bool.or_false] at huntyped
    rw [Draft.runInPicker_concat, Draft.run_concat, (h.of_untyped huntyped).1, hsame]
    exact ⟨rfl, htext huntyped⟩

/-- The drafts still agree after a keystroke that does not touch the placeholder. -/
lemma concat (h : Agrees strokes) (hk : Spares strokes k) : Agrees (strokes ++ [k]) := by
  cases k with
  | char c shift =>
    refine ⟨fun _ => ?_, fun huntyped => absurd huntyped ?_⟩
    · rw [Draft.runInPicker_concat, Draft.run_concat]
      cases htyped : anyTyped strokes with
      | true =>
        rw [h.of_typed htyped]
        exact if_neg (hk htyped)
      | false =>
        -- the first character replaces the placeholder
        obtain ⟨hrun, htext⟩ := h.of_untyped htyped
        rw [hrun, run_eq_of_not_anyTyped htyped]
        exact if_pos htext
    · simp [anyTyped_concat, Keystroke.types]
  | backspace m =>
    apply h.concat_of_not_types rfl
    intro huntyped
    have hbefore : (Draft.prompt.run strokes).before = [] := by
      rcases hk with htyped | hbefore
      · exact absurd (htyped.symm.trans huntyped) (by simp)
      · exact hbefore
    have htext := (h.of_untyped huntyped).2
    simpa [Keystroke.command, Draft.obey, Draft.text, hbefore] using htext
  | left m =>
    apply h.concat_of_not_types rfl
    intro huntyped
    exact (Draft.text_obey_left _).trans (h.of_untyped huntyped).2
  | right m =>
    apply h.concat_of_not_types rfl
    intro huntyped
    exact (Draft.text_obey_right _).trans (h.of_untyped huntyped).2

/-- A keystroke after which the right text stands in the picker has not touched the placeholder. -/
lemma spares (h : Agrees strokes)
    (htext : (Draft.prompt.runInPicker (strokes ++ [k])).text = wantedText (strokes ++ [k])) :
    Spares strokes k := by
  rw [Draft.runInPicker_concat, wantedText, anyTyped_concat] at htext
  cases k with
  | char c shift =>
    intro htyped hplaceholder
    -- the text of the user would be replaced by the one character
    have hpicker : (Draft.prompt.runInPicker strokes).text = Query.placeholder := by
      rw [h.of_typed htyped]
      exact hplaceholder
    have hlong : (({} : Draft).run strokes).text.length = 30 := by
      rw [← typedText, hplaceholder]
      rfl
    simp only [Keystroke.types, Bool.or_true, if_true, typedText, Draft.run_concat,
      Keystroke.command, Draft.obeyInPicker, if_pos hpicker] at htext
    have hlength := congrArg List.length htext
    simp only [Draft.obey, Draft.text, List.length_append, List.length_cons, List.length_nil]
      at hlength hlong
    omega
  | backspace m =>
    cases htyped : anyTyped strokes with
    | true => exact Or.inl htyped
    | false =>
      right
      obtain ⟨hrun, hplaceholder⟩ := h.of_untyped htyped
      rw [htyped, hrun, ← hplaceholder] at htext
      -- nothing is missing, so there was nothing before the cursor
      have hlength := congrArg List.length htext
      simp only [Keystroke.types, Bool.or_false, Bool.false_eq_true, if_false, Keystroke.command,
        Draft.obeyInPicker, Draft.obey, Draft.text, List.length_append, List.length_dropLast]
        at hlength
      exact List.eq_nil_of_length_eq_zero (by omega)
  | _ => trivial

end Agrees

lemma sparePlaceholder_concat_iff {strokes : List Keystroke} {k : Keystroke} :
    SparePlaceholder (strokes ++ [k]) ↔ SparePlaceholder strokes ∧ Spares strokes k := by
  simp only [SparePlaceholder, List.prefix_concat_iff]
  constructor
  · intro h
    exact ⟨fun before k' hpart => h before k' (Or.inr hpart), h strokes k (Or.inl rfl)⟩
  · rintro ⟨h, hk⟩ before k' (hlast | hpart)
    · obtain ⟨rfl, hlast⟩ := List.append_inj' hlast rfl
      obtain rfl : k' = k := by simpa using hlast
      exact hk
    · exact h before k' hpart

lemma agrees_of_sparePlaceholder {strokes : List Keystroke} (h : SparePlaceholder strokes) :
    Agrees strokes := by
  induction strokes using List.reverseRecOn with
  | nil => exact .nil
  | append_singleton strokes k ih =>
    obtain ⟨hstrokes, hk⟩ := sparePlaceholder_concat_iff.mp h
    exact (ih hstrokes).concat hk

/-- **When the user's text stands in the picker.**  After each of some keystrokes the placeholder or
what the user typed stands in the picker, as it should, if and only if the keystrokes spare the
placeholder. -/
lemma forall_text_eq_iff {strokes : List Keystroke} :
    (∀ before, before <+: strokes →
      (Draft.prompt.runInPicker before).text = wantedText before) ↔ SparePlaceholder strokes := by
  constructor
  · intro h
    induction strokes using List.reverseRecOn with
    | nil =>
      intro before k hpart
      simp at hpart
    | append_singleton strokes k ih =>
      have hstrokes := ih fun before hpart => h before (hpart.trans (List.prefix_append _ _))
      have hk := (agrees_of_sparePlaceholder hstrokes).spares (h _ List.prefix_rfl)
      exact sparePlaceholder_concat_iff.mpr ⟨hstrokes, hk⟩
  · intro h before hpart
    have hbefore : SparePlaceholder before := fun b k hb => h b k (hb.trans hpart)
    exact (agrees_of_sparePlaceholder hbefore).text_eq

end LineSearch
