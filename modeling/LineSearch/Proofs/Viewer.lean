/-
# Where the viewer is

A search makes the viewer look at entries of a list; of several looks the last one counts.  Wherever
the viewer is sent, the line at the top of it and the line of the cursor stay lines of the document
(`Fits`), so that setting the top line back to one that was seen before is never cut short.
-/
import LineSearch.Viewer
import Mathlib.Data.List.Induction
import Mathlib.Tactic.Common

namespace LineSearch

/-- The line that is gone to when a match is accepted is that of the match. -/
lemma LineMatch.target_active_line (m : LineMatch) : m.target.active.line = m.line := by
  unfold target
  cases m.spans.getLast? <;> rfl

lemma LineMatch.target_start_line (m : LineMatch) : m.target.start.line = m.line := by
  have hanchor : m.target.anchor.line = m.line := by
    unfold target
    cases m.spans.getLast? <;> rfl
  simp only [Selection.start, Position.min]
  split
  · exact m.target_active_line
  · exact hanchor

@[simp] lemma Selection.start_cursor (p : Position) : (cursor p).start = p := by
  cases h : p.before p <;> simp [start, cursor, Position.min, h]

namespace Viewer

variable {v : Viewer} {d : Document} {c : Command}

/-! ## Looking at entries -/

/-- Looks at a line: it is brought to the middle, and the cursor is set to its beginning. -/
def preview (v : Viewer) (line : Nat) : Viewer :=
  { v.revealCentered (.cursor ⟨line, 0⟩) with selection := .cursor ⟨line, 0⟩ }

/-- Looks at the first of the given entries, if there is one. -/
def lookAt (v : Viewer) : List Candidate → Viewer
  | [] => v
  | c :: _ => v.preview c.found.line

/-- What was looked at before makes no difference. -/
lemma lookAt_lookAt (v : Viewer) (before : List Candidate) {entries : List Candidate}
    (h : entries ≠ []) : (v.lookAt before).lookAt entries = v.lookAt entries := by
  cases before with
  | nil => rfl
  | cons b rest =>
    cases entries with
    | nil => exact absurd rfl h
    | cons c rest' => rfl

/-- A second look at the same entries changes nothing. -/
lemma lookAt_idem (v : Viewer) (entries : List Candidate) :
    (v.lookAt entries).lookAt entries = v.lookAt entries := by
  cases entries with
  | nil => rfl
  | cons c rest => exact v.lookAt_lookAt (c :: rest) (List.cons_ne_nil c rest)

/-- What a viewer that looks at a line is like. -/
lemma preview_eq_self_iff {line : Nat} :
    v.preview line = v ↔
      v.selection = .cursor ⟨line, 0⟩ ∧ v.topLine = min (line - v.height / 2) v.lastLine := by
  simp only [preview, revealCentered, scrollTo, Selection.start_cursor]
  constructor
  · intro h
    exact ⟨(congrArg selection h).symm, (congrArg topLine h).symm⟩
  · rintro ⟨hselection, htop⟩
    rw [← hselection, ← htop]

/-- Of several looks the last one counts. -/
lemma foldl_lookAt (v : Viewer) {looks : List (List Candidate)} (h : ∀ l ∈ looks, l ≠ []) :
    looks.foldl lookAt v = v.lookAt (looks.getLastD []) := by
  induction looks using List.reverseRecOn generalizing v with
  | nil => rfl
  | append_singleton looks last ih =>
    have hlast : last ≠ [] := h last (by simp)
    rw [List.foldl_append, ih v fun l hl => h l (by simp [hl])]
    simpa using lookAt_lookAt v _ hlast

/-- A look changes neither the document nor how much of it is visible. -/
lemma lookAt_frame (v : Viewer) (entries : List Candidate) :
    (v.lookAt entries).lineCount = v.lineCount ∧
      (v.lookAt entries).drawnHeight = v.drawnHeight := by
  cases entries <;> exact ⟨rfl, rfl⟩

/-! ## Staying within the document -/

/-- The line at the top and the line of the cursor are lines of the document. -/
structure Fits (v : Viewer) : Prop where
  top_lt : v.topLine < v.lineCount
  cursor_lt : v.cursor.line < v.lineCount

lemma fits_ofLineCount (n : Nat) : (ofLineCount n).Fits where
  top_lt := Nat.lt_of_lt_of_le Nat.one_pos (Nat.le_max_right n 1)
  cursor_lt := Nat.lt_of_lt_of_le Nat.one_pos (Nat.le_max_right n 1)

lemma Fits.drawn (h : v.Fits) (height : Nat) : (v.drawn height).Fits := ⟨h.top_lt, h.cursor_lt⟩

lemma Fits.moveCursor (h : v.Fits) {p : Position} (hp : p.line < v.lineCount) :
    (v.moveCursor p).Fits where
  top_lt := by
    have htop := h.top_lt
    have hheight : 1 ≤ v.height := Nat.le_max_right _ _
    simp only [Viewer.moveCursor]
    split
    · exact hp
    · split <;> omega
  cursor_lt := hp

/-- Commands lead to lines of the document. -/
lemma Fits.goal_lt (h : v.Fits) {p : Position} (hp : v.goal? d c = some p) :
    p.line < v.lineCount := by
  have hcursor := h.cursor_lt
  have hlast : v.lastLine < v.lineCount := by
    unfold lastLine
    omega
  cases c with
  | move dir => cases dir <;> obtain rfl := Option.some.inj hp <;> simp only <;> omega
  | pageUp =>
    obtain rfl := Option.some.inj hp
    simp only
    omega
  | pageDown =>
    obtain rfl := Option.some.inj hp
    simp only
    omega
  | top =>
    obtain rfl := Option.some.inj hp
    exact Nat.zero_lt_of_lt hcursor
  | bottom =>
    obtain rfl := Option.some.inj hp
    exact hlast
  | _ => simp [goal?] at hp

lemma lineCount_obey (v : Viewer) (d : Document) (c : Command) :
    (v.obey d c).lineCount = v.lineCount := by
  unfold obey
  cases v.goal? d c <;> rfl

lemma Fits.obey (h : v.Fits) (d : Document) (c : Command) : (v.obey d c).Fits := by
  unfold Viewer.obey
  cases hgoal : v.goal? d c with
  | none => exact h
  | some p => exact h.moveCursor (h.goal_lt hgoal)

/-- Scrolling stops at the last line. -/
lemma fits_scrollTo (h : v.cursor.line < v.lineCount) (line : Nat) : (v.scrollTo line).Fits where
  top_lt := by
    simp only [scrollTo, lastLine]
    omega
  cursor_lt := h

/-- A viewer that fits is as it was when its selection and its top line are set back. -/
lemma Fits.setBack (h : v.Fits) {w : Viewer} (hcount : w.lineCount = v.lineCount)
    (hheight : w.drawnHeight = v.drawnHeight) :
    { w with selection := v.selection }.scrollTo v.topLine = v := by
  have htop : min v.topLine (v.lineCount - 1) = v.topLine := by
    have hlt := h.top_lt
    omega
  simp only [scrollTo, lastLine, hcount, hheight, htop]

lemma Fits.lookAt (h : v.Fits) {entries : List Candidate}
    (hentries : ∀ c ∈ entries, c.found.line < v.lineCount) : (v.lookAt entries).Fits := by
  cases entries with
  | nil => exact h
  | cons c rest =>
    have hc : c.found.line < v.lineCount := hentries c (by simp)
    exact ⟨(fits_scrollTo h.cursor_lt _).top_lt, hc⟩

/-! ## What is visible -/

/-- The line is one of those that are visible. -/
def Shows (v : Viewer) (line : Nat) : Prop := v.topLine ≤ line ∧ line < v.topLine + v.height

instance (v : Viewer) (line : Nat) : Decidable (v.Shows line) :=
  inferInstanceAs (Decidable (_ ∧ _))

/-- A line of the document that is brought to the middle is visible, even if so few lines are
visible that it becomes the first one. -/
lemma shows_revealCentered {s : Selection} (h : s.start.line < v.lineCount) :
    (v.revealCentered s).Shows s.start.line := by
  have hheight : 1 ≤ v.height := Nat.le_max_right _ _
  have hsame : (v.revealCentered s).height = v.height := rfl
  have htop : (v.revealCentered s).topLine = s.start.line - v.height / 2 := by
    simp only [revealCentered, scrollTo, lastLine]
    omega
  rw [Shows, hsame, htop]
  omega

/-- A line of the document that is looked at is visible. -/
lemma shows_of_preview_eq_self {line : Nat} (h : v.preview line = v) (hline : line < v.lineCount) :
    v.Shows line := by
  have hshows := shows_revealCentered (v := v) (s := .cursor ⟨line, 0⟩) (by simpa using hline)
  rw [Selection.start_cursor] at hshows
  rw [← h]
  exact hshows

end Viewer

end LineSearch
