/-
# Loading a text

A row is a line and what ends it: a newline, or a carriage return and a newline.  Every text is made
of rows and of what stands behind the last of them (`exists_rows`), and the lines of a document can
be told from these parts (`linesOf_rows_append`).  So lines that are written with any terminators
come back when the text is loaded (`lines_rows`), and what is lost of a text is its terminators and
a carriage return at its very end (`flatten_lines`).
-/
import LineSearch.Proofs.Text.Splitting

namespace LineSearch.Document

/-- What ends a line. -/
inductive Terminator where
  | newline
  /-- A carriage return and a newline. -/
  | returnNewline
  deriving DecidableEq

/-- How a terminator is written. -/
def Terminator.text : Terminator → Text
  | newline => ['\n']
  | returnNewline => ['\r', '\n']

/-- A line and what ends it. -/
structure Row where
  line : Text
  terminator : Terminator

/-- The text of rows: their lines, each with its terminator behind it. -/
def rowsText (rows : List Row) : Text := rows.flatMap fun r => r.line ++ r.terminator.text

/-- What stands before the newline of a row. -/
def Row.piece (r : Row) : Text :=
  match r.terminator with
  | .newline => r.line
  | .returnNewline => r.line ++ ['\r']

/-- The terminator of a row is where its line ends: there is no newline in the line, and if a
newline alone ends it, there is no carriage return in front of this. -/
structure Row.EndsLine (r : Row) : Prop where
  newline_not_mem : '\n' ∉ r.line
  getLast?_ne : r.terminator = .newline → r.line.getLast? ≠ some '\r'

lemma Row.endsLine_iff {r : Row} :
    r.EndsLine ↔ '\n' ∉ r.line ∧ (r.terminator = .newline → r.line.getLast? ≠ some '\r') :=
  ⟨fun h => ⟨h.newline_not_mem, h.getLast?_ne⟩, fun h => ⟨h.1, h.2⟩⟩

instance (r : Row) : Decidable r.EndsLine := decidable_of_iff _ Row.endsLine_iff.symm

/-- A text without its newlines and without the carriage returns directly in front of them. -/
def withoutTerminators : Text → Text
  | [] => []
  | c :: rest =>
    if c = '\n' ∨ (c = '\r' ∧ rest.head? = some '\n') then withoutTerminators rest
    else c :: withoutTerminators rest

variable {rows : List Row} {r : Row} {lines : List Text} {line last : Text}

/-! ## Pieces and lines -/

lemma dropCarriageReturn_eq_self_iff :
    dropCarriageReturn line = line ↔ line.getLast? ≠ some '\r' := by
  rw [dropCarriageReturn]
  split
  · next h =>
    have hlast : line.getLast? = some '\r' := by simpa using h
    have hne : line ≠ [] := by
      rintro rfl
      simp at hlast
    have hlength : line.dropLast.length ≠ line.length := by
      have hpos : 0 < line.length := List.length_pos_iff.mpr hne
      rw [List.length_dropLast]
      omega
    simp only [hlast, ne_eq, not_true_eq_false, iff_false]
    exact fun heq => hlength (congrArg List.length heq)
  · next h => simpa using h

lemma dropCarriageReturn_concat (line : Text) : dropCarriageReturn (line ++ ['\r']) = line := by
  simp [dropCarriageReturn]

lemma dropEmptyLast_concat (lines : List Text) (last : Text) :
    dropEmptyLast (lines ++ [last]) =
      if last = [] ∧ lines ≠ [] then lines else lines ++ [last] := by
  have hlines : 0 < lines.length ↔ lines ≠ [] := List.length_pos_iff
  simp [dropEmptyLast, hlines, and_comm]

/-- An empty piece that is dropped has no characters. -/
lemma flatten_dropEmptyLast (lines : List Text) :
    (dropEmptyLast lines).flatten = lines.flatten := by
  rcases List.eq_nil_or_concat lines with rfl | ⟨lines, last, rfl⟩
  · rfl
  · rw [List.concat_eq_append, dropEmptyLast_concat]
    split
    · next h => simp [h.1]
    · rfl

lemma line_append_terminator (r : Row) : r.line ++ r.terminator.text = r.piece ++ ['\n'] := by
  rw [Row.piece]
  cases r.terminator with
  | newline => rfl
  | returnNewline => simp [Terminator.text]

lemma newline_not_mem_piece (h : '\n' ∉ r.line) : '\n' ∉ r.piece := by
  rw [Row.piece]
  split <;> simp [h]

/-- The line of a row is read from its piece just if no part of it is taken for the terminator. -/
lemma dropCarriageReturn_piece_iff :
    dropCarriageReturn r.piece = r.line ↔
      (r.terminator = .newline → r.line.getLast? ≠ some '\r') := by
  rw [Row.piece]
  cases r.terminator with
  | newline => simpa using dropCarriageReturn_eq_self_iff
  | returnNewline => simp [dropCarriageReturn_concat]

/-- **The lines of rows** and of what stands behind them. -/
lemma linesOf_rows_append (h : ∀ r ∈ rows, '\n' ∉ r.line) (hlast : '\n' ∉ last) :
    linesOf (rowsText rows ++ last) =
      dropEmptyLast
        ((rows.map fun r => dropCarriageReturn r.piece) ++ [dropCarriageReturn last]) := by
  have htext : rowsText rows = (rows.map Row.piece).flatMap (· ++ ['\n']) := by
    simp only [rowsText, line_append_terminator, List.flatMap_map]
  have hpieces : ∀ piece ∈ rows.map Row.piece, ∀ c ∈ piece, (c == '\n') = false := by
    intro piece hpiece c hc
    obtain ⟨r, hr, rfl⟩ := List.mem_map.mp hpiece
    have hnewline := newline_not_mem_piece (h r hr)
    simp only [beq_eq_false_iff_ne]
    rintro rfl
    exact hnewline hc
  have hlast' : ∀ c ∈ last, (c == '\n') = false := by
    intro c hc
    simp only [beq_eq_false_iff_ne]
    rintro rfl
    exact hlast hc
  rw [linesOf, htext, Text.splitWhere_rows_append rfl hpieces hlast', List.map_append, List.map_map]
  rfl

/-! ## A text and its rows -/

/-- A line is not shortened when terminators are taken away from what follows it, unless a carriage
return at its end is followed by a newline. -/
lemma withoutTerminators_append (hline : '\n' ∉ line) {rest : Text}
    (hend : line.getLast? = some '\r' → rest.head? ≠ some '\n') :
    withoutTerminators (line ++ rest) = line ++ withoutTerminators rest := by
  induction line with
  | nil => rfl
  | cons c line ih =>
    obtain ⟨hc, hline⟩ : '\n' ≠ c ∧ '\n' ∉ line := by simpa using hline
    have hkept : ¬ (c = '\n' ∨ (c = '\r' ∧ (line ++ rest).head? = some '\n')) := by
      rintro (rfl | ⟨rfl, hhead⟩)
      · exact hc rfl
      · cases line with
        | nil => exact hend rfl hhead
        | cons d line =>
          obtain rfl : d = '\n' := by simpa using hhead
          simp at hline
    rw [List.cons_append, withoutTerminators, if_neg hkept, List.cons_append]
    congr 1
    refine ih hline fun hlast => hend ?_
    rw [List.getLast?_cons, hlast]
    rfl

lemma withoutTerminators_terminator (t : Terminator) (rest : Text) :
    withoutTerminators (t.text ++ rest) = withoutTerminators rest := by
  cases t <;> simp [Terminator.text, withoutTerminators]

lemma withoutTerminators_rows_append (h : ∀ r ∈ rows, r.EndsLine) (hlast : '\n' ∉ last) :
    withoutTerminators (rowsText rows ++ last) = (rows.map Row.line).flatten ++ last := by
  induction rows with
  | nil =>
    have hkept : withoutTerminators (last ++ []) = last ++ withoutTerminators [] :=
      withoutTerminators_append hlast (by simp)
    rwa [List.append_nil, withoutTerminators, List.append_nil] at hkept
  | cons r rows ih =>
    have htext : rowsText (r :: rows) ++ last =
        r.line ++ (r.terminator.text ++ (rowsText rows ++ last)) := by
      simp [rowsText]
    have hr := h r (by simp)
    have hend : r.line.getLast? = some '\r' →
        (r.terminator.text ++ (rowsText rows ++ last)).head? ≠ some '\n' := by
      intro hreturn
      cases hterminator : r.terminator with
      | newline => exact absurd hreturn (hr.getLast?_ne hterminator)
      | returnNewline => simp [Terminator.text]
    rw [htext, withoutTerminators_append hr.newline_not_mem hend, withoutTerminators_terminator,
      ih fun r' hr' => h r' (by simp [hr'])]
    simp

/-- **Every text is made of rows** and of what stands behind the last one. -/
lemma exists_rows (t : Text) :
    ∃ rows last, (∀ r ∈ rows, Row.EndsLine r) ∧ '\n' ∉ last ∧ t = rowsText rows ++ last := by
  induction t with
  | nil => exact ⟨[], [], by simp, by simp, rfl⟩
  | cons c t ih =>
    obtain ⟨rows, last, hrows, hlast, rfl⟩ := ih
    by_cases hc : c = '\n'
    · -- an empty row begins
      subst hc
      refine ⟨⟨[], .newline⟩ :: rows, last, ?_, hlast, by simp [rowsText, Terminator.text]⟩
      exact List.forall_mem_cons.mpr ⟨⟨by simp, by simp⟩, hrows⟩
    cases rows with
    | nil => exact ⟨[], c :: last, by simp, by simp [hlast, Ne.symm hc], rfl⟩
    | cons r rows =>
      obtain ⟨hr, hrest⟩ := List.forall_mem_cons.mp hrows
      obtain ⟨line, terminator⟩ := r
      by_cases hjoin : c = '\r' ∧ line = [] ∧ terminator = .newline
      · -- the carriage return belongs to the terminator
        obtain ⟨rfl, rfl, rfl⟩ := hjoin
        refine ⟨⟨[], .returnNewline⟩ :: rows, last, ?_, hlast, by simp [rowsText, Terminator.text]⟩
        exact List.forall_mem_cons.mpr ⟨⟨by simp, by simp⟩, hrest⟩
      · refine ⟨⟨c :: line, terminator⟩ :: rows, last, ?_, hlast, by simp [rowsText]⟩
        refine List.forall_mem_cons.mpr ⟨⟨by simp [hr.newline_not_mem, Ne.symm hc], ?_⟩, hrest⟩
        intro hterminator hreturn
        cases line with
        | nil => exact hjoin ⟨by simpa using hreturn, rfl, hterminator⟩
        | cons d line =>
          refine hr.getLast?_ne hterminator ?_
          rwa [List.getLast?_cons_cons] at hreturn

/-! ## Loading -/

lemma linesOf_ne_nil (t : Text) : linesOf t ≠ [] := by
  have hpieces := t.splitWhere_ne_nil (· == '\n')
  rw [linesOf, dropEmptyLast]
  split
  · next h =>
    have hlength := (Bool.and_eq_true_iff.mp h).1
    rw [← List.length_pos_iff, List.length_dropLast]
    simp only [gt_iff_lt, decide_eq_true_eq] at hlength
    omega
  · simpa using hpieces

lemma map_piece_eq_iff (h : ∀ r ∈ rows, '\n' ∉ r.line) :
    (rows.map fun r => dropCarriageReturn r.piece) = rows.map Row.line ↔
      ∀ r ∈ rows, r.EndsLine := by
  rw [List.map_inj_left]
  constructor
  · intro heq r hr
    exact ⟨h r hr, dropCarriageReturn_piece_iff.mp (heq r hr)⟩
  · intro hrows r hr
    exact dropCarriageReturn_piece_iff.mpr (hrows r hr).getLast?_ne

/-- Rows that end their lines are read as these lines, and no other rows are. -/
lemma linesOf_rows_eq_iff (hne : rows ≠ []) :
    linesOf (rowsText rows) = rows.map Row.line ↔ ∀ r ∈ rows, r.EndsLine := by
  have hlines : (∀ r ∈ rows, '\n' ∉ r.line) →
      linesOf (rowsText rows) = rows.map fun r => dropCarriageReturn r.piece := by
    intro h
    have hempty : linesOf (rowsText rows ++ []) =
        dropEmptyLast ((rows.map fun r => dropCarriageReturn r.piece) ++ [[]]) :=
      linesOf_rows_append h (by simp)
    rwa [List.append_nil, dropEmptyLast_concat, if_pos ⟨rfl, by simpa using hne⟩] at hempty
  constructor
  · intro heq
    have hnewline : ∀ r ∈ rows, '\n' ∉ r.line := by
      intro r hr
      refine newline_not_mem_of_mem_linesOf (t := rowsText rows) ?_
      rw [heq]
      exact List.mem_map_of_mem hr
    rw [hlines hnewline] at heq
    exact (map_piece_eq_iff hnewline).mp heq
  · intro h
    have hnewline : ∀ r ∈ rows, '\n' ∉ r.line := fun r hr => (h r hr).newline_not_mem
    rw [hlines hnewline]
    exact (map_piece_eq_iff hnewline).mpr h

/-- So it is if the last line has no terminator, but then it is lost if it is empty and not the only
one. -/
lemma linesOf_rows_append_eq_iff :
    linesOf (rowsText rows ++ last) = rows.map Row.line ++ [last] ↔
      (∀ r ∈ rows, r.EndsLine) ∧ '\n' ∉ last ∧ last.getLast? ≠ some '\r' ∧
        (last ≠ [] ∨ rows = []) := by
  constructor
  · intro heq
    have hmem : ∀ line ∈ rows.map Row.line ++ [last], '\n' ∉ line := by
      rw [← heq]
      exact fun line hline => newline_not_mem_of_mem_linesOf hline
    have hnewline : ∀ r ∈ rows, '\n' ∉ r.line := by
      intro r hr
      exact hmem _ (List.mem_append_left _ (List.mem_map_of_mem hr))
    have hlast : '\n' ∉ last := hmem last (by simp)
    rw [linesOf_rows_append hnewline hlast, dropEmptyLast_concat] at heq
    split at heq
    · -- a line would be missing
      have hlength := congrArg List.length heq
      simp at hlength
    · next hkept =>
      obtain ⟨hpieces, hsame⟩ := List.append_inj' heq rfl
      have hdropped : dropCarriageReturn last = last := List.singleton_inj.mp hsame
      refine ⟨(map_piece_eq_iff hnewline).mp hpieces, hlast,
        dropCarriageReturn_eq_self_iff.mp hdropped, ?_⟩
      rw [hdropped] at hkept
      by_contra! hempty
      exact hkept ⟨hempty.1, by simpa using hempty.2⟩
  · rintro ⟨h, hlast, hreturn, hkept⟩
    have hnewline : ∀ r ∈ rows, '\n' ∉ r.line := fun r hr => (h r hr).newline_not_mem
    rw [linesOf_rows_append hnewline hlast, dropCarriageReturn_eq_self_iff.mpr hreturn,
      (map_piece_eq_iff hnewline).mpr h, dropEmptyLast_concat, if_neg]
    rintro ⟨hempty, hrows⟩
    rcases hkept with hne | rfl
    · exact hne hempty
    · exact hrows rfl

/-- **Lines that are written with any terminators come back.**

* If each of one or more lines has a terminator, then loading their text gives these lines if and
  only if no line contains a newline and none that a newline alone ends ends in a carriage return.
* The last line needs no terminator, unless it is empty and not the only one.
* Every text has a line, and no line of a text contains a newline. -/
theorem lines_rows :
    (∀ rows : List Row, rows ≠ [] →
      ((ofText (rowsText rows)).lines = rows.map Row.line ↔ ∀ r ∈ rows, r.EndsLine)) ∧
    (∀ (rows : List Row) (last : Text),
      (ofText (rowsText rows ++ last)).lines = rows.map Row.line ++ [last] ↔
        (∀ r ∈ rows, r.EndsLine) ∧ '\n' ∉ last ∧ last.getLast? ≠ some '\r' ∧
          (last ≠ [] ∨ rows = [])) ∧
    ∀ t, (ofText t).lines ≠ [] ∧ ∀ line ∈ (ofText t).lines, '\n' ∉ line := by
  refine ⟨fun rows hne => linesOf_rows_eq_iff hne, fun rows last => linesOf_rows_append_eq_iff, ?_⟩
  exact fun t => ⟨linesOf_ne_nil t, fun line hline => newline_not_mem_of_mem_linesOf hline⟩

/-- Both terminators, a carriage return inside of a line and one in front of a terminator, and blank
lines at the end. -/
theorem lines_rows_mixed :
    let rows : List Row :=
      [⟨['a', '\r', 'b'], .newline⟩, ⟨['c', '\r'], .returnNewline⟩, ⟨[], .newline⟩,
        ⟨[], .returnNewline⟩]
    rows ≠ [] ∧ (∀ r ∈ rows, r.EndsLine) ∧
      (ofText (rowsText rows)).lines = [['a', '\r', 'b'], ['c', '\r'], [], []] := by
  intro rows
  have hne : rows ≠ [] := List.cons_ne_nil _ _
  have hrows : ∀ r ∈ rows, r.EndsLine := by decide
  exact ⟨hne, hrows, (lines_rows.1 rows hne).mpr hrows⟩

/-! ## What is kept -/

/-- A carriage return at the end of a text stands behind its rows. -/
lemma getLast?_rows_append_iff (rows : List Row) (last : Text) :
    (rowsText rows ++ last).getLast? = some '\r' ↔ last.getLast? = some '\r' := by
  have hrows : (rowsText rows).getLast? ≠ some '\r' := by
    rcases List.eq_nil_or_concat rows with rfl | ⟨rows, r, rfl⟩
    · simp [rowsText]
    · simp [rowsText, line_append_terminator]
  rw [List.getLast?_append]
  cases hlast : last.getLast? with
  | none => simpa using hrows
  | some c => simp

lemma dropCarriageReturn_rows_append (rows : List Row) (last : Text) :
    dropCarriageReturn (rowsText rows ++ last) = rowsText rows ++ dropCarriageReturn last := by
  simp only [dropCarriageReturn, beq_iff_eq, getLast?_rows_append_iff]
  split
  · next hlast =>
    have hne : last ≠ [] := by
      rintro rfl
      simp at hlast
    exact List.dropLast_append_of_ne_nil hne
  · rfl

lemma flatten_linesOf_rows_append (h : ∀ r ∈ rows, r.EndsLine) (hlast : '\n' ∉ last) :
    (linesOf (rowsText rows ++ last)).flatten =
      (rows.map Row.line).flatten ++ dropCarriageReturn last := by
  have hnewline : ∀ r ∈ rows, '\n' ∉ r.line := fun r hr => (h r hr).newline_not_mem
  rw [linesOf_rows_append hnewline hlast, flatten_dropEmptyLast, (map_piece_eq_iff hnewline).mpr h,
    List.flatten_append, List.flatten_singleton]

/-- **What is kept of a text.**  Its lines are the text without its newlines, without the carriage
returns directly in front of these, and without a carriage return that it ends in.  So nothing but
terminators is lost if and only if the text does not end in a carriage return. -/
theorem flatten_lines (t : Text) :
    (ofText t).lines.flatten = withoutTerminators (dropCarriageReturn t) ∧
      ((ofText t).lines.flatten = withoutTerminators t ↔ t.getLast? ≠ some '\r') := by
  obtain ⟨rows, last, hrows, hlast, rfl⟩ := exists_rows t
  have hflatten : (ofText (rowsText rows ++ last)).lines.flatten =
      (rows.map Row.line).flatten ++ dropCarriageReturn last :=
    flatten_linesOf_rows_append hrows hlast
  constructor
  · rw [hflatten, dropCarriageReturn_rows_append,
      withoutTerminators_rows_append hrows (newline_not_mem_dropCarriageReturn hlast)]
  · rw [hflatten, withoutTerminators_rows_append hrows hlast, List.append_cancel_left_eq,
      dropCarriageReturn_eq_self_iff, ne_eq, ne_eq, getLast?_rows_append_iff]

/-- A carriage return at the end of a text is lost, although it is no part of a terminator. -/
theorem final_return_lost :
    (ofText ['a', '\r']).lines.flatten ≠ withoutTerminators ['a', '\r'] := by
  decide

end LineSearch.Document
