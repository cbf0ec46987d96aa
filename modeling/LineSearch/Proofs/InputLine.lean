/-
# A line of input as a text cut in two

A line of input keeps its cursor as a number of bytes, and cuts the text there before it does
anything.  A `Draft` is what one means by such a line: the text before the cursor and the text after
it.  The line of a draft (`InputLine.ofDraft`) is always cut where the draft is, and so every
operation on it gives the line of the draft on which the same was done.  In particular the cursor
never comes to stand inside a character.
-/
import LineSearch.Command
import LineSearch.InputLine
import Mathlib.Tactic.Common

namespace LineSearch

/-! ## Cutting at a number of bytes -/

namespace Text

lemma byteLength_append (t t' : Text) : byteLength (t ++ t') = byteLength t + byteLength t' := by
  induction t with
  | nil => simp [byteLength]
  | cons c rest ih => simp only [List.cons_append, byteLength, ih, Nat.add_assoc]

/-- A text is cut where its beginning ends. -/
lemma splitAtByte?_append (before after : Text) :
    splitAtByte? (before ++ after) before.byteLength = some (before, after) := by
  induction before with
  | nil => cases after <;> rfl
  | cons c rest ih =>
    -- the first character takes a byte at least, so the cut goes past it
    obtain ⟨n, hn⟩ : ∃ n, byteLength (c :: rest) = n + 1 := by
      have hpos : 0 < c.utf8Size := c.utf8Size_pos
      exact ⟨byteLength (c :: rest) - 1, by rw [byteLength]; omega⟩
    have hle : c.utf8Size ≤ n + 1 := by
      rw [← hn, byteLength]
      omega
    have hrest : n + 1 - c.utf8Size = byteLength rest := by
      rw [← hn, byteLength]
      omega
    rw [hn, List.cons_append, splitAtByte?, if_pos hle, hrest, ih]
    rfl

end Text

/-! ## Drafts -/

/-- A text that is being typed: what stands before the cursor and what stands after it. -/
structure Draft where
  before : Text := []
  after : Text := []
  deriving DecidableEq, Repr

namespace Draft

/-- The whole text. -/
def text (d : Draft) : Text := d.before ++ d.after

/-- What a command does to a text that is being typed: a character is put before the cursor, or the
one there is removed, or the cursor moves over one character.  At the ends of the text, and at all
other commands, nothing happens. -/
def obey (d : Draft) : Command → Draft
  | .type c => ⟨d.before ++ [c], d.after⟩
  | .backspace => ⟨d.before.dropLast, d.after⟩
  | .move .left =>
    match d.before.getLast? with
    | some c => ⟨d.before.dropLast, c :: d.after⟩
    | none => d
  | .move .right =>
    match d.after with
    | c :: rest => ⟨d.before ++ [c], rest⟩
    | [] => d
  | .quit | .search | .searchWord | .move .up | .move .down | .pageUp | .pageDown | .top | .bottom
  | .enter | .escape | .resize _ _ => d

lemma text_obey_left (d : Draft) : (d.obey (.move .left)).text = d.text := by
  obtain ⟨before, after⟩ := d
  cases hlast : before.getLast? with
  | none => simp [obey, hlast]
  | some c =>
    obtain ⟨rest, rfl⟩ := List.getLast?_eq_some_iff.mp hlast
    simp [obey, text]

lemma text_obey_right (d : Draft) : (d.obey (.move .right)).text = d.text := by
  obtain ⟨before, after⟩ := d
  cases after with
  | nil => rfl
  | cons c rest => simp [obey, text]

end Draft

/-! ## The line of a draft -/

namespace InputLine

/-- The line of input with the text and the cursor of a draft. -/
def ofDraft (d : Draft) : InputLine := ⟨d.text, d.before.byteLength⟩

variable (d : Draft)

@[simp] lemma text_ofDraft : (ofDraft d).text = d.text := rfl

@[simp] lemma split?_ofDraft : (ofDraft d).split? = some (d.before, d.after) :=
  Text.splitAtByte?_append d.before d.after

lemma ofText_eq_ofDraft (t : Text) : ofText t = ofDraft ⟨t, []⟩ := by
  simp [ofText, ofDraft, Draft.text]

lemma insert_ofDraft (c : Char) : (ofDraft d).insert c = ofDraft (d.obey (.type c)) := by
  simp only [insert, split?_ofDraft]
  simp [ofDraft, Draft.obey, Draft.text, Text.byteLength_append, Text.byteLength]

lemma erase?_ofDraft :
    (ofDraft d).erase? = if d.before = [] then none else some (ofDraft (d.obey .backspace)) := by
  simp only [erase?, split?_ofDraft]
  obtain ⟨before, after⟩ := d
  cases hlast : before.getLast? with
  | none => simp [List.getLast?_eq_none_iff.mp hlast]
  | some c =>
    obtain ⟨rest, rfl⟩ := List.getLast?_eq_some_iff.mp hlast
    simp [ofDraft, Draft.obey, Draft.text, Text.byteLength_append, Text.byteLength]

lemma left_ofDraft : (ofDraft d).left = ofDraft (d.obey (.move .left)) := by
  simp only [left, split?_ofDraft]
  obtain ⟨before, after⟩ := d
  cases hlast : before.getLast? with
  | none => simp [Draft.obey, hlast]
  | some c =>
    obtain ⟨rest, rfl⟩ := List.getLast?_eq_some_iff.mp hlast
    simp [ofDraft, Draft.obey, Draft.text, Text.byteLength_append, Text.byteLength]

lemma right_ofDraft : (ofDraft d).right = ofDraft (d.obey (.move .right)) := by
  simp only [right, split?_ofDraft]
  obtain ⟨before, after⟩ := d
  cases after with
  | nil => simp [Draft.obey]
  | cons c rest =>
    simp [ofDraft, Draft.obey, Draft.text, Text.byteLength_append, Text.byteLength]

end InputLine

end LineSearch
