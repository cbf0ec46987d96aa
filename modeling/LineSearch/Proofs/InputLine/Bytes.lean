/-
# A line of input by its bytes

What is done to a line of input can also be said by the bytes of its text: a character is put in or
taken out where a byte is, and the byte to which the cursor moves is looked up among those at which
characters begin.  Each such step fails where the byte is inside of a character or past the end.  On
the line of a draft none of them fails, and they come to what the operations of the line are.
-/
import LineSearch.Proofs.Text.Bytes

namespace LineSearch

/-! ## Texts cut at a byte -/

namespace Text

/-- The text up to a byte. -/
def upToByte? (t : Text) (byte : Nat) : Option Text := (t.splitAtByte? byte).map Prod.fst

/-- The text from a byte on. -/
def fromByte? (t : Text) (byte : Nat) : Option Text := (t.splitAtByte? byte).map Prod.snd

/-- Puts in a character at a byte. -/
def insertAtByte? (t : Text) (byte : Nat) (c : Char) : Option Text :=
  (t.splitAtByte? byte).map fun (before, after) => before ++ c :: after

/-- Takes out the character that begins at a byte. -/
def eraseAtByte? (t : Text) (byte : Nat) : Option Text :=
  match t.splitAtByte? byte with
  | some (before, _ :: after) => some (before ++ after)
  | _ => none

/-- The bytes at which the characters of a text begin; `first` is that of the first one. -/
def byteStarts (first : Nat) : Text → List Nat
  | [] => []
  | c :: rest => first :: byteStarts (first + c.utf8Size) rest

lemma byteStarts_concat (first : Nat) (t : Text) (c : Char) :
    byteStarts first (t ++ [c]) = byteStarts first t ++ [first + t.byteLength] := by
  induction t generalizing first with
  | nil => rfl
  | cons d rest ih => simp only [List.cons_append, byteStarts, ih, byteLength, Nat.add_assoc]

end Text

/-! ## Lines of input -/

namespace InputLine

/-- The byte at which the character before the cursor begins; at the front of the text it is the
first one. -/
def previousStart? (l : InputLine) : Option Nat :=
  (l.text.upToByte? l.cursor).map fun before => (before.byteStarts 0).getLast?.getD 0

/-- Types a character at the byte of the cursor. -/
def insertByBytes? (l : InputLine) (c : Char) : Option InputLine :=
  (l.text.insertAtByte? l.cursor c).map fun text => ⟨text, l.cursor + c.utf8Size⟩

/-- Removes the character that begins before the cursor. -/
def eraseByBytes? (l : InputLine) : Option InputLine :=
  l.previousStart?.bind fun start => (l.text.eraseAtByte? start).map fun text => ⟨text, start⟩

/-- Moves the cursor to the byte at which the character before it begins. -/
def leftByBytes? (l : InputLine) : Option InputLine :=
  if 0 < l.cursor then l.previousStart?.map fun start => { l with cursor := start } else some l

/-- Moves the cursor to the byte at which the next character but one begins, or else to the end. -/
def rightByBytes? (l : InputLine) : Option InputLine :=
  if l.cursor < l.text.byteLength then
    (l.text.fromByte? l.cursor).map fun after =>
      { l with
        cursor :=
          match (after.byteStarts 0)[1]? with
          | some start => l.cursor + start
          | none => l.text.byteLength }
  else some l

variable (d : Draft)

lemma cursor_ofDraft_pos_iff : 0 < (ofDraft d).cursor ↔ d.before ≠ [] := Text.byteLength_pos_iff

/-- The cursor is never inside of a character. -/
lemma splitAtByte?_ofDraft :
    (ofDraft d).text.splitAtByte? (ofDraft d).cursor = some (d.before, d.after) :=
  split?_ofDraft d

lemma upToByte?_ofDraft : (ofDraft d).text.upToByte? (ofDraft d).cursor = some d.before := by
  rw [Text.upToByte?, splitAtByte?_ofDraft]
  rfl

lemma fromByte?_ofDraft : (ofDraft d).text.fromByte? (ofDraft d).cursor = some d.after := by
  rw [Text.fromByte?, splitAtByte?_ofDraft]
  rfl

lemma previousStart?_ofDraft :
    (ofDraft d).previousStart? = some (Text.byteLength d.before.dropLast) := by
  rw [previousStart?, upToByte?_ofDraft]
  obtain ⟨before, after⟩ := d
  cases hlast : before.getLast? with
  | none =>
    obtain rfl := List.getLast?_eq_none_iff.mp hlast
    rfl
  | some c =>
    obtain ⟨rest, rfl⟩ := List.getLast?_eq_some_iff.mp hlast
    simp [Text.byteStarts_concat]

lemma insertByBytes?_ofDraft (c : Char) :
    (ofDraft d).insertByBytes? c = some ((ofDraft d).insert c) := by
  rw [insertByBytes?, Text.insertAtByte?, splitAtByte?_ofDraft, insert, split?_ofDraft]
  rfl

/-- The character that begins before the cursor is there to be removed. -/
lemma eraseByBytes?_ofDraft (h : d.before ≠ []) :
    (ofDraft d).eraseByBytes? = some (ofDraft (d.obey .backspace)) := by
  rw [eraseByBytes?, previousStart?_ofDraft]
  obtain ⟨before, after⟩ := d
  obtain ⟨rest, c, rfl⟩ : ∃ rest c, before = rest ++ [c] :=
    ⟨_, _, (List.dropLast_concat_getLast h).symm⟩
  have htext : (ofDraft ⟨rest ++ [c], after⟩).text = rest ++ c :: after := by
    simp [Draft.text]
  rw [htext, List.dropLast_concat, Option.bind_some, Text.eraseAtByte?, Text.splitAtByte?_append]
  simp [ofDraft, Draft.obey, Draft.text]

lemma leftByBytes?_ofDraft : (ofDraft d).leftByBytes? = some (ofDraft d).left := by
  rw [leftByBytes?, previousStart?_ofDraft, left_ofDraft]
  obtain ⟨before, after⟩ := d
  cases hlast : before.getLast? with
  | none =>
    obtain rfl := List.getLast?_eq_none_iff.mp hlast
    rfl
  | some c =>
    obtain ⟨rest, rfl⟩ := List.getLast?_eq_some_iff.mp hlast
    rw [if_pos ((cursor_ofDraft_pos_iff _).mpr (by simp))]
    simp [ofDraft, Draft.obey, Draft.text]

lemma rightByBytes?_ofDraft : (ofDraft d).rightByBytes? = some (ofDraft d).right := by
  rw [rightByBytes?, fromByte?_ofDraft, right_ofDraft]
  obtain ⟨before, after⟩ := d
  cases after with
  | nil => simp [ofDraft, Draft.text, Draft.obey]
  | cons c rest =>
    have hlt : (ofDraft ⟨before, c :: rest⟩).cursor <
        (ofDraft ⟨before, c :: rest⟩).text.byteLength := by
      have hpos : 0 < c.utf8Size := c.utf8Size_pos
      simp only [ofDraft, Draft.text, Text.byteLength_append, Text.byteLength]
      omega
    rw [if_pos hlt]
    cases rest with
    | nil => simp [ofDraft, Draft.text, Draft.obey, Text.byteStarts]
    | cons e rest =>
      simp [ofDraft, Draft.text, Draft.obey, Text.byteStarts, Text.byteLength_append,
        Text.byteLength]

end InputLine

end LineSearch
