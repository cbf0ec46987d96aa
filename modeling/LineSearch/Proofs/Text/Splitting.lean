/-
# Pieces of a text

No piece of a text contains a separator, and a text without one is its only piece.  So rows that
are each ended by a separator are found again when their text is cut (`splitWhere_rows`), and a
line of a document contains no newline (`Document.newline_not_mem_of_mem_linesOf`).
-/
import LineSearch.Document
import LineSearch.Text.Whitespace
import Mathlib.Tactic.Common

namespace LineSearch

namespace Text

variable {p : Char → Bool}

lemma splitWhere_of_forall_not {t : Text} (h : ∀ c ∈ t, p c = false) : splitWhere p t = [t] := by
  induction t with
  | nil => rfl
  | cons c rest ih =>
    rw [splitWhere, ih fun d hd => h d (by simp [hd])]
    simp [h c (by simp)]

lemma words_of_forall_not {t : Text} (hne : t ≠ []) (h : ∀ c ∈ t, isWhitespace c = false) :
    words t = [t] := by
  rw [words, splitWhere_of_forall_not h]
  simp [hne]

/-- A piece contains no separator. -/
lemma not_of_mem_splitWhere {t piece : Text} (h : piece ∈ splitWhere p t) :
    ∀ c ∈ piece, p c = false := by
  induction t generalizing piece with
  | nil =>
    obtain rfl : piece = [] := by simpa using h
    simp
  | cons c rest ih =>
    rw [splitWhere] at h
    split at h
    · -- in front of a separator stands an empty piece
      rcases List.mem_cons.mp h with rfl | hrest
      · simp
      · exact ih hrest
    · rename_i hc
      obtain ⟨first, more, hfirst⟩ := List.exists_cons_of_ne_nil (splitWhere_ne_nil p rest)
      rw [hfirst] at h ih
      rcases List.mem_cons.mp h with rfl | hmore
      · intro d hd
        rcases List.mem_cons.mp hd with rfl | hd
        · simpa using hc
        · exact ih List.mem_cons_self d hd
      · exact ih (List.mem_cons_of_mem first hmore)

/-- Rows that are ended by a separator are found again, and so is what stands behind the last of
them. -/
lemma splitWhere_rows_append {separator : Char} (hp : p separator = true) {rows : List Text}
    (h : ∀ row ∈ rows, ∀ c ∈ row, p c = false) {last : Text} (hlast : ∀ c ∈ last, p c = false) :
    splitWhere p (rows.flatMap (· ++ [separator]) ++ last) = rows ++ [last] := by
  induction rows with
  | nil => exact splitWhere_of_forall_not hlast
  | cons row rest ih =>
    have htext : (row :: rest).flatMap (· ++ [separator]) ++ last =
        row ++ separator :: (rest.flatMap (· ++ [separator]) ++ last) := by simp
    rw [htext, splitWhere_append_cons p row _ hp, splitWhere_of_forall_not (h row (by simp)),
      ih fun row' hrow' => h row' (by simp [hrow'])]
    rfl

/-- **Rows are found again.**  Behind the separator that ends the last row stands an empty piece. -/
lemma splitWhere_rows {separator : Char} (hp : p separator = true) {rows : List Text}
    (h : ∀ row ∈ rows, ∀ c ∈ row, p c = false) :
    splitWhere p (rows.flatMap (· ++ [separator])) = rows ++ [[]] := by
  have hrows : splitWhere p (rows.flatMap (· ++ [separator]) ++ []) = rows ++ [[]] :=
    splitWhere_rows_append hp h (by simp)
  rwa [List.append_nil] at hrows

/-- What is glued together comes from the pieces or from what is put between them. -/
lemma mem_join {c : Char} {separator : Text} {pieces : List Text} (h : c ∈ join separator pieces) :
    c ∈ separator ∨ ∃ piece ∈ pieces, c ∈ piece := by
  induction pieces using join.induct with
  | case1 => simp [join] at h
  | case2 piece => exact Or.inr ⟨piece, by simp, h⟩
  | case3 piece next pieces ih =>
    rw [join, List.mem_append, List.mem_append] at h
    rcases h with (hpiece | hseparator) | hrest
    · exact Or.inr ⟨piece, by simp, hpiece⟩
    · exact Or.inl hseparator
    · rcases ih hrest with hseparator | ⟨other, hmem, hother⟩
      · exact Or.inl hseparator
      · exact Or.inr ⟨other, List.mem_cons_of_mem piece hmem, hother⟩

end Text

namespace Document

variable {t line : Text}

lemma newline_not_mem_dropCarriageReturn (h : '\n' ∉ line) : '\n' ∉ dropCarriageReturn line := by
  rw [dropCarriageReturn]
  split
  · exact fun hmem => h (List.dropLast_subset _ hmem)
  · exact h

/-- A line of a text contains no newline. -/
lemma newline_not_mem_of_mem_linesOf (h : line ∈ linesOf t) : '\n' ∉ line := by
  have hpiece : line ∈ (t.splitWhere (· == '\n')).map dropCarriageReturn := by
    rw [linesOf, dropEmptyLast] at h
    split at h
    · exact List.dropLast_subset _ h
    · exact h
  obtain ⟨piece, hmem, rfl⟩ := List.mem_map.mp hpiece
  refine newline_not_mem_dropCarriageReturn fun hnewline => ?_
  simpa using Text.not_of_mem_splitWhere hmem '\n' hnewline

/-- Whatever its number is, a line of a document that was cut from a text contains no newline. -/
lemma newline_not_mem_line {d : Document} (h : d.lines = linesOf t) (i : Nat) :
    '\n' ∉ d.line i := by
  rw [line, h, List.getD_eq_getElem?_getD]
  cases hi : (linesOf t)[i]? with
  | none => simp
  | some line => exact newline_not_mem_of_mem_linesOf (List.mem_of_getElem? hi)

end Document

end LineSearch
