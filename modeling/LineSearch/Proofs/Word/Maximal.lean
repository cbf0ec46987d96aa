/-
# The whole word that touches a position

A whole word of a line can be told by its columns: word characters stand in all of them, and none
stands directly before the first or behind the last (`Text.WholeWord`).  Two whole words that touch
one place are the same, since neither starts or stops inside of the other or next to it
(`WholeWord.unique`).

One can look for the word at a position by walking from column to column, to the left and to the
right, as long as there are word characters (`Document.wordAt?`).  This would fail if a column were
read that the line does not have.  The main result is `Document.wordAt_wholeWord`.
-/
import LineSearch.Proofs.Word

namespace LineSearch

open Document (slice)

namespace Text

/-- Whether a word character stands in the column. -/
def hasWordChar (t : Text) (column : Nat) : Bool := t[column]?.any isWordChar

/-- Whether a word character stands directly before the column. -/
def followsWordChar (line : Text) : Nat → Bool
  | 0 => false
  | column + 1 => line.hasWordChar column

/-- Whether a word character stands next to the place before the column, on either side. -/
def touchesWordChar (line : Text) (column : Nat) : Bool :=
  line.followsWordChar column || line.hasWordChar column

/-- The columns from `start` up to, and not with, `stop` hold a whole word of the line. -/
structure WholeWord (line : Text) (start stop : Nat) : Prop where
  start_lt : start < stop
  inside : ∀ i, start ≤ i → i < stop → line.hasWordChar i = true
  not_before : line.followsWordChar start = false
  not_after : line.hasWordChar stop = false

/-! ### Walking over the columns -/

/-- Where a walk to the left ends that goes on as long as a word character comes next. -/
def wordStart? (t : Text) : Nat → Option Nat
  | 0 => some 0
  | column + 1 => do
    let c ← t[column]?
    if isWordChar c then wordStart? t column else some (column + 1)

/-- Where a walk to the right ends that goes on as long as a word character comes next. -/
def wordStop? (t : Text) (column : Nat) : Option Nat :=
  if column < t.length then do
    let c ← t[column]?
    if isWordChar c then wordStop? t (column + 1) else some column
  else some column
  termination_by t.length - column

/-- The part of a line from one column up to another, if the line has it. -/
def slice? (line : Text) (start stop : Nat) : Option Text :=
  if start ≤ stop ∧ stop ≤ line.length then some (slice line start stop) else none

variable {line before word after : Text} {column start stop start' stop' : Nat}

/-! ## Whole words -/

namespace WholeWord

/-- A whole word does not start inside of another one, nor directly behind it. -/
lemma start_le (h : line.WholeWord start stop) (h' : line.WholeWord start' stop')
    (hle : start ≤ stop') : start ≤ start' := by
  cases start with
  | zero => exact Nat.zero_le _
  | succ i =>
    by_contra hnot
    -- the character before the one word would be a character of the other
    have hinside := h'.inside i (by omega) (by omega)
    have hbefore : line.hasWordChar i = false := h.not_before
    exact absurd (hinside.symm.trans hbefore) (by decide)

/-- A whole word does not stop inside of another one, nor directly before it. -/
lemma stop_le (h : line.WholeWord start stop) (h' : line.WholeWord start' stop')
    (hle : start' ≤ stop) : stop' ≤ stop := by
  by_contra hnot
  have hinside := h'.inside stop hle (by omega)
  exact absurd (hinside.symm.trans h.not_after) (by decide)

/-- Only one whole word touches a place. -/
lemma unique (h : line.WholeWord start stop) (hstart : start ≤ column) (hstop : column ≤ stop)
    (h' : line.WholeWord start' stop') (hstart' : start' ≤ column) (hstop' : column ≤ stop') :
    start = start' ∧ stop = stop' :=
  ⟨Nat.le_antisymm (h.start_le h' (by omega)) (h'.start_le h (by omega)),
    Nat.le_antisymm (h'.stop_le h (by omega)) (h.stop_le h' (by omega))⟩

/-- A place that a whole word touches is next to a character of it. -/
lemma touchesWordChar (h : line.WholeWord start stop) (hstart : start ≤ column)
    (hstop : column ≤ stop) : line.touchesWordChar column = true := by
  rw [Text.touchesWordChar, Bool.or_eq_true]
  by_cases hlt : column < stop
  · exact Or.inr (h.inside column hstart hlt)
  · -- at the end of the word, the character is the one before
    have hlt' := h.start_lt
    cases column with
    | zero => omega
    | succ i => exact Or.inl (h.inside i (by omega) (by omega))

/-- The line has all columns of a whole word. -/
lemma stop_le_length (h : line.WholeWord start stop) : stop ≤ line.length := by
  have hlt := h.start_lt
  have hlast := h.inside (stop - 1) (by omega) (by omega)
  by_contra hnot
  rw [hasWordChar, List.getElem?_eq_none (by omega)] at hlast
  exact absurd hlast (by decide)

end WholeWord

/-- What is behind a place begins with the character in its column. -/
lemma any_head?_drop (line : Text) (column : Nat) :
    (line.drop column).head?.any isWordChar = line.hasWordChar column := by
  rw [List.head?_drop, hasWordChar]

/-- What is before a place ends with the character in the column before. -/
lemma any_getLast?_take (h : column ≤ line.length) :
    (line.take column).getLast?.any isWordChar = line.followsWordChar column := by
  cases column with
  | zero => rfl
  | succ i =>
    rw [← List.take_append_getElem h, List.getLast?_concat, followsWordChar, hasWordChar,
      List.getElem?_eq_getElem h]

/-- A whole word between two texts stands in the columns behind those of the first. -/
lemma WordBetween.wholeWord (h : WordBetween before word after) :
    (before ++ word ++ after).WholeWord before.length (before.length + word.length) where
  start_lt := Nat.lt_add_of_pos_right (List.length_pos_iff.mpr h.ne_nil)
  inside := by
    intro i hle hlt
    have hi : i - before.length < word.length := by omega
    have hget : (before ++ word ++ after)[i]? = some word[i - before.length] := by
      rw [List.append_assoc, List.getElem?_append_right hle, List.getElem?_append_left hi,
        List.getElem?_eq_getElem hi]
    rw [hasWordChar, hget]
    exact h.isWordChar _ (List.getElem_mem hi)
  not_before := by
    have hle : before.length ≤ (before ++ word ++ after).length := by simp
    rw [← any_getLast?_take hle, List.append_assoc, List.take_left, Option.any_eq_false]
    exact h.not_before
  not_after := by
    rw [← any_head?_drop, ← List.length_append, List.drop_left, Option.any_eq_false]
    exact h.not_after

/-- What stands in the columns behind those of a text is what follows it. -/
lemma slice_append (before word after : Text) :
    slice (before ++ word ++ after) before.length (before.length + word.length) = word := by
  rw [slice, List.append_assoc, List.drop_left, Nat.add_sub_cancel_left, List.take_left]

/-! ## The word around a place -/

lemma takeWhile_isWordChar_eq_nil_iff (t : Text) :
    t.takeWhile isWordChar = [] ↔ t.head?.any isWordChar = false := by
  cases t with
  | nil => simp
  | cons c rest => simp [List.takeWhile_cons]

/-- A word is put together around every place that a word character is next to. -/
lemma wordAround_eq_nil_iff (h : column ≤ line.length) :
    wordAround (line.take column) (line.drop column) = [] ↔
      line.touchesWordChar column = false := by
  rw [wordAround, List.append_eq_nil_iff, List.reverse_eq_nil_iff, takeWhile_isWordChar_eq_nil_iff,
    takeWhile_isWordChar_eq_nil_iff, List.head?_reverse, any_getLast?_take h, any_head?_drop,
    touchesWordChar, Bool.or_eq_false_iff]

/-! ### The walks -/

/-- A walk to the left passes the word characters that the line ends with before the column. -/
lemma wordStart?_eq (h : column ≤ line.length) :
    line.wordStart? column = some ((line.take column).rdropWhile isWordChar).length := by
  induction column with
  | zero => rfl
  | succ i ih =>
    rw [wordStart?, List.getElem?_eq_getElem h, ← List.take_append_getElem h,
      List.rdropWhile_concat, Option.bind_eq_bind, Option.bind_some, ih (by omega)]
    split
    · rfl
    · -- no character is passed, and all of the text before the column is left
      rw [List.take_append_getElem h, List.length_take, Nat.min_eq_left h]

/-- A walk to the right passes the word characters that the line goes on with from the column. -/
lemma wordStop?_eq (line : Text) (column : Nat) :
    line.wordStop? column = some (column + ((line.drop column).takeWhile isWordChar).length) := by
  induction column using wordStop?.induct line with
  | case1 column hlt ih =>
    rw [wordStop?, if_pos hlt, List.getElem?_eq_getElem hlt, Option.bind_eq_bind, Option.bind_some,
      List.drop_eq_getElem_cons hlt, List.takeWhile_cons]
    split
    · rw [ih, List.length_cons]
      congr 1
      omega
    · rfl
  | case2 column hge =>
    rw [wordStop?, if_neg hge, List.drop_eq_nil_of_le (Nat.le_of_not_lt hge)]
    rfl

/-- The walks end where the word around the place does, and the line has the part between them. -/
lemma exists_walks (h : column ≤ line.length) :
    ∃ start stop, line.wordStart? column = some start ∧ line.wordStop? column = some stop ∧
      line.slice? start stop = some (wordAround (line.take column) (line.drop column)) ∧
      (start < stop ↔ wordAround (line.take column) (line.drop column) ≠ []) := by
  have hline := append_wordAround (line.take column) (line.drop column)
  have hstop := length_rdropWhile_add (line.take column) (line.drop column)
  rw [List.take_append_drop] at hline
  rw [List.length_take, Nat.min_eq_left h] at hstop
  refine ⟨_, _, wordStart?_eq h, wordStop?_eq line column, ?_, ?_⟩
  · have hslice := slice_append ((line.take column).rdropWhile isWordChar)
      (wordAround (line.take column) (line.drop column)) ((line.drop column).dropWhile isWordChar)
    have hlength := congrArg List.length hline
    simp only [List.length_append] at hlength
    rw [hline] at hslice
    rw [slice?, ← hstop, if_pos ⟨by omega, by omega⟩, hslice]
  · rw [← hstop, ← List.length_pos_iff]
    omega

end Text

namespace Document

/-- The word that the position is in or touches, found by walking from column to column; `none` if a
column is read or sliced at that the line does not have. -/
def wordAt? (d : Document) (p : Position) : Option (Option Text) :=
  if d.lineCount ≤ p.line then some none
  else
    let line := d.line p.line
    if line.length < p.column then some none
    else do
      let start ← line.wordStart? p.column
      let stop ← line.wordStop? p.column
      if start < stop then (line.slice? start stop).map some else some none

variable {d : Document} {p : Position} {word : Text} {start stop : Nat}

/-- At a place of the document, the word is what is put together around it, if that is anything. -/
lemma wordAt_of_le (hline : p.line < d.lineCount) (hcolumn : p.column ≤ (d.line p.line).length) :
    d.wordAt p =
      let word := Text.wordAround ((d.line p.line).take p.column) ((d.line p.line).drop p.column)
      if word = [] then none else some word := by
  rw [wordAt, if_neg (not_le.mpr hline)]
  simp only [if_neg (not_lt.mpr hcolumn)]
  split
  · next h => rw [if_pos h]
  · next h => rw [if_neg h]

/-- Walking finds the word, and never reads a column that the line does not have. -/
lemma wordAt?_eq (d : Document) (p : Position) : d.wordAt? p = some (d.wordAt p) := by
  by_cases hline : d.lineCount ≤ p.line
  · rw [wordAt?, wordAt, if_pos hline, if_pos hline]
  by_cases hcolumn : (d.line p.line).length < p.column
  · simp only [wordAt?, wordAt, if_neg hline, if_pos hcolumn]
  obtain ⟨start, stop, hstart, hstop, hslice, hlt⟩ := Text.exists_walks (not_lt.mp hcolumn)
  rw [wordAt_of_le (not_le.mp hline) (not_lt.mp hcolumn)]
  simp only [wordAt?, if_neg hline, if_neg hcolumn, hstart, hstop, hslice, hlt, ne_eq, ite_not,
    Option.bind_eq_bind, Option.bind_some, Option.map_some]
  split <;> rfl

/-- There is no word outside of the document, nor where no word character is near. -/
lemma wordAt_eq_none_iff :
    d.wordAt p = none ↔ d.lineCount ≤ p.line ∨ (d.line p.line).length < p.column ∨
      (d.line p.line).touchesWordChar p.column = false := by
  by_cases hline : d.lineCount ≤ p.line
  · simp [wordAt, hline]
  by_cases hcolumn : (d.line p.line).length < p.column
  · simp [wordAt, hcolumn]
  rw [wordAt_of_le (not_le.mp hline) (not_lt.mp hcolumn), or_iff_right hline, or_iff_right hcolumn,
    ← Text.wordAround_eq_nil_iff (not_lt.mp hcolumn)]
  simp

/-- The word is a whole word of its line. -/
lemma exists_wholeWord (h : d.wordAt p = some word) :
    p.line < d.lineCount ∧ p.column ≤ (d.line p.line).length ∧
      ∃ start stop, (d.line p.line).WholeWord start stop ∧ start ≤ p.column ∧ p.column ≤ stop ∧
        word = slice (d.line p.line) start stop := by
  obtain ⟨hline, before, after, htext, hstart, hstop, hword⟩ := exists_of_wordAt h
  rw [htext]
  refine ⟨hline, ?_, _, _, hword.wholeWord, hstart, hstop, (Text.slice_append _ _ _).symm⟩
  simp only [List.length_append]
  omega

/-- Any whole word that the position is in or touches is the word. -/
lemma wordAt_of_wholeWord (hline : p.line < d.lineCount)
    (h : (d.line p.line).WholeWord start stop) (hstart : start ≤ p.column)
    (hstop : p.column ≤ stop) : d.wordAt p = some (slice (d.line p.line) start stop) := by
  have hcolumn : p.column ≤ (d.line p.line).length := hstop.trans h.stop_le_length
  have hsome : d.wordAt p ≠ none := by
    rw [ne_eq, wordAt_eq_none_iff, h.touchesWordChar hstart hstop]
    simp only [not_or, not_le, not_lt]
    exact ⟨hline, hcolumn, by decide⟩
  obtain ⟨word, hword⟩ := Option.ne_none_iff_exists'.mp hsome
  obtain ⟨-, -, start', stop', h', hstart', hstop', rfl⟩ := exists_wholeWord hword
  obtain ⟨rfl, rfl⟩ := h.unique hstart hstop h' hstart' hstop'
  exact hword

/-- **The word at a position** is the whole word of its line that the position is in or touches.

* There is a word if and only if the position is in the document and in a whole word of its line or
  next to one, and then it is this one.
* Only one whole word is there.
* All positions of a line from the beginning of a whole word up to its end have this word.
* There is no word exactly at the positions outside of the document and at those that have no word
  character on either side.
* Walking over the columns finds the word, and reads no column that the line does not have. -/
theorem wordAt_wholeWord (d : Document) (p : Position) :
    let line := d.line p.line
    (∀ word, d.wordAt p = some word ↔
        p.line < d.lineCount ∧ p.column ≤ line.length ∧
          ∃ start stop, line.WholeWord start stop ∧ start ≤ p.column ∧ p.column ≤ stop ∧
            word = slice line start stop) ∧
      (∀ start stop start' stop', line.WholeWord start stop → start ≤ p.column → p.column ≤ stop →
        line.WholeWord start' stop' → start' ≤ p.column → p.column ≤ stop' →
          start = start' ∧ stop = stop') ∧
      (∀ start stop, p.line < d.lineCount → line.WholeWord start stop →
        ∀ column, start ≤ column → column ≤ stop →
          d.wordAt ⟨p.line, column⟩ = some (slice line start stop)) ∧
      (d.wordAt p = none ↔ d.lineCount ≤ p.line ∨ line.length < p.column ∨
        line.touchesWordChar p.column = false) ∧
      d.wordAt? p = some (d.wordAt p) := by
  intro line
  refine ⟨fun word => ⟨exists_wholeWord, ?_⟩, ?_, ?_, wordAt_eq_none_iff, wordAt?_eq d p⟩
  · rintro ⟨hline, -, start, stop, h, hstart, hstop, rfl⟩
    exact wordAt_of_wholeWord hline h hstart hstop
  · intro start stop start' stop' h hstart hstop h' hstart' hstop'
    exact h.unique hstart hstop h' hstart' hstop'
  · intro start stop hline h column hstart hstop
    exact wordAt_of_wholeWord (p := ⟨p.line, column⟩) hline h hstart hstop

/-- A word with a letter beyond ASCII, a low line and a digit, at its beginning and at its end.  At
the end of the line, behind the mark that follows the word, there is none. -/
theorem wordAt_wholeWord_street :
    let d : Document := .ofText "one\nfür straße_2!".toList
    let word : Text := "straße_2".toList
    1 < d.lineCount ∧ (d.line 1).WholeWord 4 12 ∧
      (∀ start stop, (d.line 1).WholeWord start stop → start ≤ 4 → 4 ≤ stop →
        4 = start ∧ 12 = stop) ∧
      d.wordAt ⟨1, 4⟩ = some word ∧ d.wordAt ⟨1, 12⟩ = some word ∧ d.wordAt ⟨1, 13⟩ = none := by
  intro d word
  have hline : 1 < d.lineCount := by decide
  have hwhole : (d.line 1).WholeWord 4 12 :=
    ⟨by decide, by decide +kernel, by decide +kernel, by decide +kernel⟩
  have hslice : slice (d.line 1) 4 12 = word := by decide +kernel
  obtain ⟨-, hunique, hsame, -, -⟩ := wordAt_wholeWord d ⟨1, 4⟩
  obtain ⟨-, -, -, hnone, -⟩ := wordAt_wholeWord d ⟨1, 13⟩
  refine ⟨hline, hwhole, ?_, ?_, ?_, ?_⟩
  · intro start stop h hstart hstop
    exact hunique 4 12 start stop hwhole (by decide) (by decide) h hstart hstop
  · rw [← hslice]
    exact hsame 4 12 hline hwhole 4 (by decide) (by decide)
  · rw [← hslice]
    exact hsame 4 12 hline hwhole 12 (by decide) (by decide)
  · exact hnone.mpr (Or.inr (Or.inr (by decide +kernel)))

end Document

end LineSearch
