/-
# Selected text as a part of the document

The lines of a document make one text, with a newline between neighbours, and a position has an
offset in it.  A position that is not in the text stands for the nearest one before it that is
(`Lines.clamp`).  The main result is that the selected text is what lies between the offsets of the
two ends of the selection (`Document.selectedText_eq_slice`).
-/
import LineSearch.Proofs.Position
import LineSearch.Word
import Mathlib.Tactic.Common

namespace LineSearch

open Document (slice)

namespace Lines

/-- The text that lines make. -/
def text (lines : List Text) : Text := Text.join ['\n'] lines

/-- The number of characters before a position: all of the lines before it, each with its newline,
and those before it in its own line. -/
def offset (lines : List Text) (p : Position) : Nat :=
  ((lines.take p.line).flatMap (· ++ ['\n'])).length + p.column

/-- The position in the text that a position stands for.  A column past the end of its line stands
for this end, and a line past the last one for the end of the text. -/
def clamp (lines : List Text) (p : Position) : Position :=
  match lines[p.line]? with
  | some line => ⟨p.line, min p.column line.length⟩
  | none => ⟨lines.length - 1, (lines.getLast?.getD []).length⟩

/-- What a selection from `start` to `stop` takes from a line. -/
def part (start stop : Position) (i : Nat) (line : Text) : Text :=
  let first := if i = start.line then start.column else 0
  if i = stop.line then slice line first stop.column else line.drop first

/-- What a selection from `start` to `stop` takes from all lines that it meets. -/
def parts (lines : List Text) (start stop : Position) : List Text :=
  ((lines.mapIdx (part start stop)).drop start.line).take (stop.line + 1 - start.line)

variable {line next : Text} {lines : List Text} {l l' c c' : Nat}

@[simp] lemma text_nil : text [] = [] := rfl

@[simp] lemma text_singleton : text [line] = line := rfl

lemma text_cons (h : lines ≠ []) : text (line :: lines) = line ++ '\n' :: text lines := by
  obtain ⟨next, rest, rfl⟩ := List.exists_cons_of_ne_nil h
  show line ++ ['\n'] ++ text (next :: rest) = line ++ '\n' :: text (next :: rest)
  rw [List.append_assoc, List.singleton_append]

/-! ## Slices of a text in two pieces -/

section Slice

variable (before after : Text) (c c')

/-- A place past the end of the first piece stands for this end. -/
lemma drop_append_min : (before ++ after).drop (min c before.length) = before.drop c ++ after := by
  rw [List.drop_append, Nat.sub_eq_zero_of_le (Nat.min_le_right _ _), List.drop_zero]
  congr 1
  rw [List.drop_eq_drop_iff]
  omega

lemma slice_within : slice (before ++ after) (min c before.length) (min c' before.length) =
    slice before c c' := by
  have hlength : (before.drop c).length = before.length - c := List.length_drop
  rw [slice, slice, drop_append_min, List.take_append_of_le_length (by omega),
    List.take_eq_take_iff]
  omega

lemma slice_across (n : Nat) :
    slice (before ++ after) (min c before.length) (before.length + n) =
      before.drop c ++ slice after 0 n := by
  have hlength : before.length + n - min c before.length = (before.drop c).length + n := by
    rw [List.length_drop]
    omega
  rw [slice, drop_append_min, hlength, List.take_length_add_append]
  rfl

lemma slice_cons_zero (d : Char) (n : Nat) : slice (d :: after) 0 (1 + n) = d :: slice after 0 n := by
  rw [slice, slice, Nat.sub_zero, Nat.sub_zero, Nat.add_comm]
  rfl

lemma slice_after (m n : Nat) :
    slice (before ++ after) (before.length + m) (before.length + n) = slice after m n := by
  rw [slice, List.drop_length_add_append, Nat.add_sub_add_left]
  rfl

end Slice

/-! ## Offsets -/

lemma offset_zero : offset lines ⟨0, c⟩ = c := by
  simp [offset]

lemma offset_cons_succ : offset (line :: lines) ⟨l + 1, c⟩ = line.length + 1 + offset lines ⟨l, c⟩ := by
  simp only [offset, List.take_succ_cons, List.flatMap_cons, List.length_append, List.length_singleton]
  omega

lemma offset_clamp_cons_zero : offset (line :: lines) (clamp (line :: lines) ⟨0, c⟩) =
    min c line.length :=
  offset_zero

lemma offset_clamp_zero : offset lines (clamp lines ⟨0, 0⟩) = 0 := by
  cases lines with
  | nil => rfl
  | cons line lines => exact offset_clamp_cons_zero.trans (Nat.zero_min _)

lemma offset_clamp_singleton_succ : offset [line] (clamp [line] ⟨l + 1, c⟩) = line.length :=
  offset_zero

/-- Behind the first of several lines, a position is one of the other lines. -/
lemma offset_clamp_cons_succ (h : lines ≠ []) :
    offset (line :: lines) (clamp (line :: lines) ⟨l + 1, c⟩) =
      line.length + 1 + offset lines (clamp lines ⟨l, c⟩) := by
  rw [clamp, clamp, List.getElem?_cons_succ]
  cases lines[l]? with
  | some other => exact offset_cons_succ
  | none =>
    obtain ⟨next, rest, rfl⟩ := List.exists_cons_of_ne_nil h
    exact offset_cons_succ

/-- A position past the last line is the end of the text. -/
lemma offset_clamp_of_length_le {p : Position} (h : lines.length ≤ p.line) :
    offset lines (clamp lines p) = (text lines).length := by
  obtain ⟨l, c⟩ := p
  induction lines generalizing l with
  | nil => rfl
  | cons line lines ih =>
    cases l with
    | zero => simp at h
    | succ l =>
      by_cases hlines : lines = []
      · subst hlines
        exact offset_clamp_singleton_succ
      · have hle : lines.length ≤ l := by simpa using h
        rw [offset_clamp_cons_succ hlines, text_cons hlines, ih l hle]
        simp only [List.length_append, List.length_cons]
        omega

/-! ## The parts of a selection -/

lemma parts_cons_zero_zero : parts (line :: lines) ⟨0, c⟩ ⟨0, c'⟩ = [slice line c c'] := by
  simp [parts, part]

lemma parts_cons_zero_succ :
    parts (line :: lines) ⟨0, c⟩ ⟨l' + 1, c'⟩ = line.drop c :: parts lines ⟨0, 0⟩ ⟨l', c'⟩ := by
  have hpart : (fun i => part ⟨0, c⟩ ⟨l' + 1, c'⟩ (i + 1)) = part ⟨0, 0⟩ ⟨l', c'⟩ := by
    ext i line
    simp [part]
  rw [parts, parts, List.mapIdx_cons, hpart]
  rfl

lemma parts_cons_succ_succ :
    parts (line :: lines) ⟨l + 1, c⟩ ⟨l' + 1, c'⟩ = parts lines ⟨l, c⟩ ⟨l', c'⟩ := by
  have hpart : (fun i => part ⟨l + 1, c⟩ ⟨l' + 1, c'⟩ (i + 1)) = part ⟨l, c⟩ ⟨l', c'⟩ := by
    ext i line
    simp [part]
  rw [parts, parts, List.mapIdx_cons, hpart, List.drop_succ_cons, Nat.add_sub_add_right]

lemma parts_zero_ne_nil (h : lines ≠ []) : parts lines ⟨0, c⟩ ⟨l', c'⟩ ≠ [] := by
  obtain ⟨line, rest, rfl⟩ := List.exists_cons_of_ne_nil h
  cases l' with
  | zero => simp [parts_cons_zero_zero]
  | succ l' => simp [parts_cons_zero_succ]

lemma text_parts_singleton (h : l ≤ l') :
    text (parts [line] ⟨l, c⟩ ⟨l', c'⟩) =
      slice line (offset [line] (clamp [line] ⟨l, c⟩)) (offset [line] (clamp [line] ⟨l', c'⟩)) := by
  cases l with
  | zero =>
    cases l' with
    | zero =>
      have hslice := slice_within c c' line []
      rw [List.append_nil] at hslice
      rw [parts_cons_zero_zero, offset_clamp_cons_zero, offset_clamp_cons_zero, hslice, text_singleton]
    | succ l' =>
      have hslice := slice_across c line [] 0
      rw [List.append_nil, Nat.add_zero] at hslice
      rw [parts_cons_zero_succ, offset_clamp_cons_zero, offset_clamp_singleton_succ, hslice]
      simp [parts, slice]
  | succ l =>
    cases l' with
    | zero => omega
    | succ l' =>
      rw [parts_cons_succ_succ, offset_clamp_singleton_succ, offset_clamp_singleton_succ]
      simp [parts, slice]

/-- **The parts of a selection** make the part of the text that lies between its ends. -/
lemma text_parts (h : l ≤ l') :
    text (parts lines ⟨l, c⟩ ⟨l', c'⟩) =
      slice (text lines) (offset lines (clamp lines ⟨l, c⟩)) (offset lines (clamp lines ⟨l', c'⟩)) := by
  induction lines generalizing l c l' with
  | nil => simp [parts, text, Text.join, slice]
  | cons line lines ih =>
    by_cases hlines : lines = []
    · subst hlines
      exact text_parts_singleton h
    cases l with
    | zero =>
      cases l' with
      | zero =>
        rw [parts_cons_zero_zero, offset_clamp_cons_zero, offset_clamp_cons_zero, text_cons hlines,
          slice_within]
        rfl
      | succ l' =>
        rw [parts_cons_zero_succ, text_cons (parts_zero_ne_nil hlines), ih (Nat.zero_le l'),
          offset_clamp_zero, ← slice_cons_zero, offset_clamp_cons_zero,
          offset_clamp_cons_succ hlines, text_cons hlines, Nat.add_assoc, slice_across]
    | succ l =>
      cases l' with
      | zero => omega
      | succ l' =>
        have htext : text (line :: lines) = (line ++ ['\n']) ++ text lines := by
          rw [text_cons hlines, List.append_assoc, List.singleton_append]
        have hlength : line.length + 1 = (line ++ ['\n']).length := by simp
        rw [parts_cons_succ_succ, ih (by omega), offset_clamp_cons_succ hlines,
          offset_clamp_cons_succ hlines, htext, hlength, slice_after]

end Lines

namespace Document

/-- The selected text consists of the parts of the lines. -/
lemma selectedText_eq_parts (d : Document) (s : Selection) :
    d.selectedText s = Lines.text (Lines.parts d.lines s.start s.stop) := by
  rw [selectedText]
  split
  · next h =>
    have hnone : d.lines.length ≤ s.start.line := h
    have hparts : Lines.parts d.lines s.start s.stop = [] := by
      rw [Lines.parts, List.drop_eq_nil_of_le (by simpa using hnone), List.take_nil]
    rw [hparts, Lines.text_nil]
  · next h =>
    have hsome : s.start.line < d.lines.length := not_le.mp h
    show Lines.text _ = _
    congr 1
    refine List.ext_getElem? fun k => ?_
    rw [Lines.parts, List.getElem?_map, List.getElem?_take, List.getElem?_drop, List.getElem?_mapIdx,
      lineCount]
    by_cases hk : k < s.stop.line + 1 - s.start.line
    · rw [if_pos hk]
      by_cases hlast : s.start.line + k < d.lines.length
      · have hline : d.line (s.start.line + k) = d.lines[s.start.line + k] := by
          rw [line, List.getD_eq_getElem?_getD, List.getElem?_eq_getElem hlast, Option.getD_some]
        rw [List.getElem?_range' (by omega), Nat.one_mul, List.getElem?_eq_getElem hlast, ← hline]
        rfl
      · rw [List.getElem?_eq_none (by rw [List.length_range']; omega),
          List.getElem?_eq_none (Nat.le_of_not_lt hlast)]
        rfl
    · rw [if_neg hk, List.getElem?_eq_none (by rw [List.length_range']; omega)]
      rfl

/-- **The selected text** is the part of the document's text from the smaller of the two ends up to
the larger one.  An end that is not in the text stands for the nearest place before it; past the last
line, this is the end of the text. -/
theorem selectedText_eq_slice (d : Document) (s : Selection) :
    s.start.key = min s.anchor.key s.active.key ∧ s.stop.key = max s.anchor.key s.active.key ∧
      (∀ p : Position, d.lineCount ≤ p.line →
        Lines.offset d.lines (Lines.clamp d.lines p) = (Lines.text d.lines).length) ∧
      d.selectedText s =
        slice (Lines.text d.lines) (Lines.offset d.lines (Lines.clamp d.lines s.start))
          (Lines.offset d.lines (Lines.clamp d.lines s.stop)) := by
  refine ⟨s.key_start, s.key_stop, fun p hp => Lines.offset_clamp_of_length_le hp, ?_⟩
  rw [selectedText_eq_parts, Lines.text_parts s.start_line_le]

/-- From behind the end of the first line to a line that is not there. -/
theorem selectedText_eq_slice_past_end :
    let d : Document := { lines := [['a', 'b'], ['c']] }
    d.lineCount ≤ 7 ∧
      Lines.offset d.lines (Lines.clamp d.lines ⟨7, 2⟩) = (Lines.text d.lines).length ∧
      d.selectedText ⟨⟨7, 2⟩, ⟨0, 5⟩⟩ = ['\n', 'c'] := by
  intro d
  obtain ⟨-, -, hend, hselected⟩ := selectedText_eq_slice d ⟨⟨7, 2⟩, ⟨0, 5⟩⟩
  exact ⟨by decide, hend ⟨7, 2⟩ (by decide), hselected⟩

end Document

end LineSearch
