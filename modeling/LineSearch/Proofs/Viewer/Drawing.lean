/-
# How the lines of a document are drawn

Each character of a line has a style, which follows from the selection, the highlights and the theme
(`DocumentView.DrawnIn`).  Runs show a line if they spell it out, each character in its style, and if
they are as few as can be (`DocumentView.Shows`).  The main result is that a line is drawn with the
only runs that show it (`DocumentView.line_shows`).
-/
import LineSearch.Proofs.Highlight.Painted
import LineSearch.Proofs.Position
import LineSearch.Proofs.Screen.Runs
import LineSearch.Viewer.Drawing

namespace LineSearch

open Screen (Style Run Separate Grouping spell)

namespace DocumentView

/-- The document with the highlights that a course of painting leaves. -/
def painted (v : DocumentView) (ps : List Highlight.Paint) : DocumentView :=
  { v with highlights := .painted ps }

/-- The character after the position is selected: there is something selected, and the position lies
between the ends, of which the last one does not count. -/
def Selected (v : DocumentView) (p : Position) : Prop :=
  v.viewer.selection.anchor ≠ v.viewer.selection.active ∧
    min v.viewer.selection.anchor.key v.viewer.selection.active.key ≤ p.key ∧
    p.key < max v.viewer.selection.anchor.key v.viewer.selection.active.key

/-- The buckets with a range over the character after the position. -/
def bucketsOver (v : DocumentView) (p : Position) : Set Nat :=
  {b | ∃ r ∈ v.highlights.ranges b, r.line = p.line ∧ r.start ≤ p.column ∧ p.column < r.stop}

/-- The style that the character after the position is to be drawn in. -/
inductive DrawnIn (v : DocumentView) (p : Position) : Style → Prop
  | selection (h : v.Selected p) : DrawnIn v p v.theme.selection
  | highlight {bucket : Nat} (h : ¬ v.Selected p) (hleast : IsLeast (v.bucketsOver p) bucket) :
      DrawnIn v p (v.theme.text.patch (v.theme.highlight bucket))
  | text (h : ¬ v.Selected p) (hnone : v.bucketsOver p = ∅) : DrawnIn v p v.theme.text

/-- The runs show the line: they consist of its characters, each in a style that it is to be drawn
in, and none of them is empty or in the style of its neighbour. -/
structure Shows (v : DocumentView) (line : Nat) (runs : List Run) : Prop where
  text : runs.flatMap Run.text = v.document.line line
  style : ∀ column c s, (spell runs)[column]? = some (c, s) → v.DrawnIn ⟨line, column⟩ s
  separate : Separate runs

/-- The characters of a line, each with its style. -/
def styled (v : DocumentView) (line : Nat) : List (Char × Style) :=
  (v.document.line line).mapIdx fun column c => (c, v.charStyle ⟨line, column⟩)

variable {v : DocumentView} {p : Position} {s s' : Style} {i : Nat}

/-! ## The style of a character -/

lemma covers_selection_iff : v.viewer.selection.covers p = true ↔ v.Selected p := by
  rw [Selection.covers_iff, Selection.key_start, Selection.key_stop]
  rfl

/-- There is no choice of the style. -/
lemma DrawnIn.unique (h : v.DrawnIn p s) (h' : v.DrawnIn p s') : s = s' := by
  cases h with
  | selection hselected =>
    cases h' with
    | selection _ => rfl
    | highlight hnot _ => exact absurd hselected hnot
    | text hnot _ => exact absurd hselected hnot
  | highlight hnot hleast =>
    cases h' with
    | selection hselected => exact absurd hselected hnot
    | highlight _ hleast' => rw [hleast.unique hleast']
    | text _ hnone => exact absurd (hnone ▸ hleast.1) (Set.notMem_empty _)
  | text hnot hnone =>
    cases h' with
    | selection hselected => exact absurd hselected hnot
    | highlight _ hleast => exact absurd (hnone ▸ hleast.1) (Set.notMem_empty _)
    | text _ _ => rfl

lemma drawnIn_charStyle (h : v.highlights.Indexed) : v.DrawnIn p (v.charStyle p) := by
  have hover : ∀ b, (∃ r ∈ v.highlights.ranges b, r.covers p.line p.column = true) ↔
      b ∈ v.bucketsOver p := by
    intro b
    simp only [Highlight.Range.covers_iff]
    rfl
  rw [charStyle]
  split
  · next hcovers => exact .selection (covers_selection_iff.mp hcovers)
  · next hcovers =>
    have hnot : ¬ v.Selected p := mt covers_selection_iff.mpr hcovers
    split
    · next bucket hbucket =>
      rw [Highlight.Store.bucketAt_eq_some_iff h] at hbucket
      simp only [hover] at hbucket
      exact .highlight hnot hbucket
    · next hnone =>
      rw [Highlight.Store.bucketAt_eq_none_iff h] at hnone
      simp only [hover] at hnone
      exact .text hnot (Set.eq_empty_of_forall_notMem hnone)

/-- The style that is computed is the one that the character is to be drawn in. -/
lemma charStyle_eq_iff (h : v.highlights.Indexed) : v.charStyle p = s ↔ v.DrawnIn p s := by
  constructor
  · rintro rfl
    exact drawnIn_charStyle h
  · intro hs
    exact (drawnIn_charStyle h).unique hs

/-! ## The runs of a line -/

/-- Characters with styles are those of the line if they are its text and each has its style. -/
lemma eq_styled_iff (h : v.highlights.Indexed) {chars : List (Char × Style)} :
    chars = v.styled i ↔ chars.map Prod.fst = v.document.line i ∧
      ∀ column c s, chars[column]? = some (c, s) → v.DrawnIn ⟨i, column⟩ s := by
  constructor
  · rintro rfl
    refine ⟨?_, fun column c s hget => ?_⟩
    · refine List.ext_getElem? fun column => ?_
      rw [styled, List.getElem?_map, List.getElem?_mapIdx, Option.map_map]
      exact Option.map_id'
    · rw [styled, List.getElem?_mapIdx] at hget
      obtain ⟨d, -, hd⟩ := Option.map_eq_some_iff.mp hget
      cases hd
      exact drawnIn_charStyle h
  · rintro ⟨htext, hstyle⟩
    refine List.ext_getElem? fun column => ?_
    rw [styled, ← htext, List.getElem?_mapIdx, List.getElem?_map]
    cases hget : chars[column]? with
    | none => rfl
    | some e =>
      obtain ⟨c, s⟩ := e
      show some (c, s) = some (c, v.charStyle ⟨i, column⟩)
      rw [(charStyle_eq_iff h).mpr (hstyle column c s hget)]

/-- The runs of a line are the only ones that show it. -/
lemma shows_iff (h : v.highlights.Indexed) {runs : List Run} : v.Shows i runs ↔ v.textRuns i = runs := by
  show _ ↔ Screen.groupRuns (v.styled i) = runs
  rw [Screen.groupRuns_eq_iff, eq_styled_iff h, Screen.map_fst_spell, and_assoc]
  constructor
  · rintro ⟨htext, hstyle, hseparate⟩
    exact ⟨htext, hstyle, hseparate⟩
  · rintro ⟨htext, hstyle, hseparate⟩
    exact ⟨htext, hstyle, hseparate⟩

/-! ## The line -/

lemma patch_left (s : Style) : Style.patch {} s = s := by
  simp [Style.patch, Screen.Attributes.union]

lemma hasCursor_iff : v.hasCursor i = true ↔ v.focused = true ∧ v.viewer.selection.active.line = i := by
  rw [hasCursor, Bool.and_eq_true, beq_iff_eq, eq_comm (a := i)]
  rfl

/-- **How a line is drawn.**  After any course of painting, the line is drawn as its number, if
numbers are wanted, and the only runs that show the line.  They are what one pass over its characters
collects.  The style of the cursor line is laid over the line if and only if the document has the
focus and the moving end of the selection is in the line. -/
theorem line_shows (v : DocumentView) (ps : List Highlight.Paint) (i : Nat) :
    (∃ runs, (∀ other, (v.painted ps).Shows i other ↔ other = runs) ∧
      ((v.painted ps).line i).runs = (if v.showLineNumbers then [v.numberRun i] else []) ++ runs ∧
      runs = (Grouping.pass ((v.painted ps).styled i)).flush) ∧
      ((v.painted ps).line i).style =
        if v.focused = true ∧ v.viewer.selection.active.line = i then
          Style.patch {} v.theme.cursorLine
        else {} := by
  have hindexed : (v.painted ps).highlights.Indexed := Highlight.Store.indexed_painted ps
  refine ⟨⟨(v.painted ps).textRuns i, fun other => ?_, rfl, ?_⟩, ?_⟩
  · rw [shows_iff hindexed, eq_comm]
  · exact (Grouping.flush_pass _).symm
  · show (if v.hasCursor i = true then v.theme.cursorLine else {}) = _
    rw [patch_left]
    simp only [hasCursor_iff]

end DocumentView

end LineSearch
