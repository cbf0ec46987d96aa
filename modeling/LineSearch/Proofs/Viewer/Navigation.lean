/-
# Going through a document

A viewer of a document is sent from place to place by commands, and between them it is scrolled and
drawn at any height.  Its cursor stays at a place of the document (`Within`), and each command
leaves it visible, with the top line as near as can be to where it was (`Navigated`).

Most differences stop at zero on purpose, but two must not: the number of the last line, and the top
line when the cursor leaves the window at the bottom.  `obey?` fails if one of these would.  The main
result is `performAll_navigates`.
-/
import LineSearch.Proofs.Viewer
import Mathlib.Data.Nat.Dist
import Mathlib.Data.Nat.PSub

namespace LineSearch

/-- The position is a place of the document: in one of its lines or at the end of one.  A document
without lines has the place of an empty one. -/
structure Document.HasPlace (d : Document) (p : Position) : Prop where
  line_lt : p.line < max d.lineCount 1
  column_le : p.column ≤ (d.line p.line).length

/-- Whether it is a command to go somewhere. -/
def Command.navigates : Command → Bool
  | move _ | pageUp | pageDown | top | bottom => true
  | _ => false

namespace Viewer

/-! ## What is done with a viewer -/

/-- Something that is done with a viewer. -/
inductive Action where
  | command (c : Command)
  /-- The beginning of the selection is brought to the middle. -/
  | reveal (s : Selection)
  /-- The first visible line is set. -/
  | scroll (line : Nat)
  | draw (height : Nat)

/-- The viewer of the document after an action. -/
def perform (d : Document) (v : Viewer) : Action → Viewer
  | .command c => v.obey d c
  | .reveal s => v.revealCentered s
  | .scroll line => v.scrollTo line
  | .draw height => v.drawn height

/-- The viewer of the document after several actions. -/
def performAll (d : Document) (v : Viewer) (actions : List Action) : Viewer :=
  actions.foldl (perform d) v

/-! ### Differences that must not stop at zero -/

/-- The last line that can be at the top. -/
def lastLine? (v : Viewer) : Option Nat := v.lineCount.psub 1

/-- Sets the cursor and scrolls as little as is needed to show its line. -/
def moveCursor? (v : Viewer) (p : Position) : Option Viewer := do
  let topLine ←
    if p.line < v.topLine then some p.line
    else if v.topLine + v.height ≤ p.line then (p.line + 1).psub v.height
    else some v.topLine
  return { v with selection := .cursor p, topLine }

/-- Does what the user commands; `none` if more lines are taken away than there are. -/
def obey? (v : Viewer) (d : Document) (c : Command) : Option Viewer := do
  -- the last line is numbered before the command is looked at
  let _ ← v.lastLine?
  match v.goal? d c with
  | some p => v.moveCursor? p
  | none => some v

/-- The viewer of the document after an action; `none` if a command fails. -/
def perform? (d : Document) (v : Viewer) : Action → Option Viewer
  | .command c => v.obey? d c
  | a => some (v.perform d a)

variable {v : Viewer} {d : Document} {c : Command} {p : Position}

/-! ## Moving the cursor -/

/-- A top line is only computed for a cursor that is at least as many lines down as are visible. -/
lemma moveCursor?_eq (v : Viewer) (p : Position) : v.moveCursor? p = some (v.moveCursor p) := by
  rw [moveCursor?, moveCursor]
  split
  · rfl
  · split
    · next h =>
      have hsub : (p.line + 1).psub v.height = some (p.line + 1 - v.height) :=
        Nat.psub_eq_sub (by omega)
      rw [hsub]
      rfl
    · rfl

/-- The viewer came from another one by a command: nothing is selected, the cursor is at a place of
the document and visible, and of all top lines that show it this one is closest to the one
before. -/
structure Navigated (d : Document) (before v : Viewer) : Prop where
  isEmpty : v.selection.isEmpty = true
  hasPlace : d.HasPlace v.cursor
  height_eq : v.height = before.height
  shows : v.Shows v.cursor.line
  closest : ∀ top, { v with topLine := top }.Shows v.cursor.line → top ≠ v.topLine →
    Nat.dist before.topLine v.topLine < Nat.dist before.topLine top

/-- A move leaves the line of the cursor at the top if it was above the window and at the bottom if
it was below, and otherwise the window where it was. -/
lemma topLine_moveCursor (v : Viewer) (p : Position) :
    (p.line < v.topLine ∧ (v.moveCursor p).topLine = p.line) ∨
      (v.topLine + v.height ≤ p.line ∧ (v.moveCursor p).topLine + v.height = p.line + 1) ∨
      (v.Shows p.line ∧ (v.moveCursor p).topLine = v.topLine) := by
  by_cases habove : p.line < v.topLine
  · exact Or.inl ⟨habove, by simp [moveCursor, habove]⟩
  by_cases hbelow : v.topLine + v.height ≤ p.line
  · refine Or.inr (Or.inl ⟨hbelow, ?_⟩)
    simp only [moveCursor, if_neg habove, if_pos hbelow]
    omega
  · refine Or.inr (Or.inr ⟨⟨by omega, by omega⟩, ?_⟩)
    simp [moveCursor, habove, hbelow]

lemma shows_moveCursor (v : Viewer) (p : Position) : (v.moveCursor p).Shows p.line := by
  have hheight : 1 ≤ v.height := Nat.le_max_right _ _
  have hsame : (v.moveCursor p).height = v.height := rfl
  rw [Shows, hsame]
  rcases v.topLine_moveCursor p with ⟨habove, htop⟩ | ⟨hbelow, htop⟩ | ⟨hshows, htop⟩
  · omega
  · omega
  · rwa [htop]

/-- Every other top line that shows the cursor is further away. -/
lemma dist_topLine_moveCursor_lt {top : Nat} (hle : top ≤ p.line) (hlt : p.line < top + v.height)
    (hne : top ≠ (v.moveCursor p).topLine) :
    Nat.dist v.topLine (v.moveCursor p).topLine < Nat.dist v.topLine top := by
  rw [Nat.dist, Nat.dist]
  rcases v.topLine_moveCursor p with ⟨habove, htop⟩ | ⟨hbelow, htop⟩ | ⟨-, htop⟩
  · -- no top line below that of the cursor shows it
    omega
  · -- a top line further up ends the window before the cursor
    omega
  · omega

lemma navigated_moveCursor (hp : d.HasPlace p) : Navigated d v (v.moveCursor p) where
  isEmpty := by simp [moveCursor, Selection.isEmpty, Selection.cursor]
  hasPlace := hp
  height_eq := rfl
  shows := v.shows_moveCursor p
  closest := fun _ hshows hne => dist_topLine_moveCursor_lt hshows.1 hshows.2 hne

/-! ## One action -/

/-- The viewer is of the document, which it does not leave, and its cursor is at a place of it. -/
structure Within (v : Viewer) (d : Document) : Prop where
  lineCount_eq : v.lineCount = max d.lineCount 1
  fits : v.Fits
  column_le : v.cursor.column ≤ (d.line v.cursor.line).length

lemma isSome_goal?_iff : (v.goal? d c).isSome = true ↔ c.navigates = true := by
  cases c with
  | move direction => cases direction <;> simp [goal?, Command.navigates]
  | _ => simp [goal?, Command.navigates]

namespace Within

/-- Commands lead to places of the document. -/
lemma hasPlace_goal (h : v.Within d) (hp : v.goal? d c = some p) : d.HasPlace p where
  line_lt := by
    rw [← h.lineCount_eq]
    exact h.fits.goal_lt hp
  column_le := by
    have hcolumn := h.column_le
    cases c with
    | move direction =>
      cases direction <;> obtain rfl := Option.some.inj hp <;> simp only <;> omega
    | pageUp | pageDown =>
      obtain rfl := Option.some.inj hp
      simp only
      omega
    | top | bottom =>
      obtain rfl := Option.some.inj hp
      exact Nat.zero_le _
    | _ => simp [goal?] at hp

lemma of_moveCursor (h : v.Within d) (hp : d.HasPlace p) : (v.moveCursor p).Within d where
  lineCount_eq := h.lineCount_eq
  fits := by
    refine h.fits.moveCursor ?_
    rw [h.lineCount_eq]
    exact hp.line_lt
  column_le := hp.column_le

lemma scrollTo (h : v.Within d) (line : Nat) : (v.scrollTo line).Within d where
  lineCount_eq := h.lineCount_eq
  fits := fits_scrollTo h.fits.cursor_lt line
  column_le := h.column_le

lemma perform (h : v.Within d) (a : Action) : (v.perform d a).Within d := by
  cases a with
  | command c =>
    rw [Viewer.perform, obey]
    cases hgoal : v.goal? d c with
    | none => exact h
    | some p => exact h.of_moveCursor (h.hasPlace_goal hgoal)
  | reveal s => exact h.scrollTo _
  | scroll line => exact h.scrollTo line
  | draw height => exact ⟨h.lineCount_eq, h.fits.drawn height, h.column_le⟩

lemma performAll (h : v.Within d) (actions : List Action) : (v.performAll d actions).Within d := by
  induction actions generalizing v with
  | nil => exact h
  | cons a actions ih => exact ih (h.perform a)

lemma navigated_obey (h : v.Within d) (hc : c.navigates = true) : Navigated d v (v.obey d c) := by
  obtain ⟨p, hp⟩ := Option.isSome_iff_exists.mp (isSome_goal?_iff.mpr hc)
  rw [obey, hp]
  exact navigated_moveCursor (h.hasPlace_goal hp)

/-- No action fails: there is a last line. -/
lemma perform?_eq (h : v.Within d) (a : Action) : v.perform? d a = some (v.perform d a) := by
  cases a with
  | command c =>
    have hlast : v.lastLine? = some v.lastLine :=
      Nat.psub_eq_sub (Nat.zero_lt_of_lt h.fits.top_lt)
    rw [perform?, obey?, hlast, Viewer.perform, obey]
    cases v.goal? d c with
    | none => rfl
    | some p => exact v.moveCursor?_eq p
  | _ => rfl

end Within

/-! ## Several actions -/

/-- **Going through a document.**  Begin with a viewer that was made for a document and any
selection whose cursor is at a place of it, and let any actions be performed.

* The line at the top is a line of the document.
* A command to go somewhere leaves the cursor at a place of the document and visible, nothing
  selected, and the top line as close as can be to where it was.
* A line of the document that is brought to the middle is visible.
* No action takes a number from a smaller one where it must not. -/
theorem performAll_navigates (d : Document) {s : Selection} (hs : d.HasPlace s.active)
    (actions : List Action) :
    let v := performAll d { ofLineCount d.lineCount with selection := s } actions
    v.topLine < max d.lineCount 1 ∧
      (∀ c, c.navigates = true → Navigated d v (v.obey d c)) ∧
      (∀ s : Selection, s.start.line < max d.lineCount 1 →
        (v.revealCentered s).Shows s.start.line) ∧
      ∀ a, v.perform? d a = some (v.perform d a) := by
  intro v
  have hbegin : Within { ofLineCount d.lineCount with selection := s } d :=
    ⟨rfl, ⟨(fits_ofLineCount d.lineCount).top_lt, hs.line_lt⟩, hs.column_le⟩
  have h : v.Within d := hbegin.performAll actions
  refine ⟨?_, fun c hc => h.navigated_obey hc, ?_, h.perform?_eq⟩
  · rw [← h.lineCount_eq]
    exact h.fits.top_lt
  · intro s hline
    rw [← h.lineCount_eq] at hline
    exact shows_revealCentered hline

/-- Nothing of the document is visible, the last line is at the top, and the cursor goes from the
end of the first line to an empty one. -/
theorem performAll_navigates_unseen :
    let d : Document := { lines := [['a', 'b'], [], ['c']] }
    let s : Selection := ⟨⟨7, 9⟩, ⟨0, 2⟩⟩
    let v := performAll d { ofLineCount d.lineCount with selection := s } [.scroll 9, .draw 0]
    d.HasPlace s.active ∧ v.topLine = 2 ∧ Command.navigates (.move .down) = true ∧
      Navigated d v (v.obey d (.move .down)) ∧ (v.obey d (.move .down)).topLine = 1 ∧
      s.start.line < max d.lineCount 1 ∧ (v.revealCentered s).Shows s.start.line := by
  intro d s v
  have hs : d.HasPlace s.active := ⟨by decide, by decide⟩
  obtain ⟨-, hnavigated, hshows, -⟩ := performAll_navigates d hs [.scroll 9, .draw 0]
  exact ⟨hs, by decide, by decide, hnavigated _ (by decide), by decide, by decide,
    hshows s (by decide)⟩

end Viewer

end LineSearch
