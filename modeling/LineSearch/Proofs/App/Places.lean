/-
# The viewer of the program stays within the document

The viewer goes where commands, entries of the list and views that were saved send it.  All of these
are places in the document, and so the viewer never leaves it (`Placed.run`).
-/
import LineSearch.Proofs.App.Rest
import LineSearch.Proofs.Scan

namespace LineSearch

/-- The entries that are listed for a query are of lines of the document. -/
lemma Search.line_lt_of_mem_listing [Regex.Engine] {d : Document} {query : Text} {c : Candidate}
    (h : c ∈ listing d query) : c.found.line < d.lineCount := by
  cases hq : Query.isSearchable query with
  | false => simp [listing, hq] at h
  | true =>
    simp only [listing, hq, if_true, Candidate.list, List.mem_map] at h
    obtain ⟨m, hm, rfl⟩ := h
    exact (Document.mem_scan.mp hm).1

namespace App

variable {a b : App} {c : Command} {saved : SavedView}

/-- The viewer is of the document and within it, and so is the view that was saved. -/
structure Placed (a : App) : Prop where
  lineCount_eq : a.viewer.lineCount = max a.document.lineCount 1
  fits : a.viewer.Fits
  saved_lt : ∀ saved accepted, a.search.phase = .searching saved accepted →
    saved.selection.active.line < a.viewer.lineCount

namespace Placed

lemma line_lt (h : a.Placed) {line : Nat} (hline : line < a.document.lineCount) :
    line < a.viewer.lineCount := by
  have hcount := h.lineCount_eq
  omega

/-- Looking at entries of the document keeps the viewer in it. -/
lemma lookAt (h : a.Placed) {entries : List Candidate}
    (hentries : ∀ c ∈ entries, c.found.line < a.document.lineCount) :
    Placed { a with viewer := a.viewer.lookAt entries } := by
  obtain ⟨hcount, -⟩ := a.viewer.lookAt_frame entries
  refine ⟨hcount.trans h.lineCount_eq, ?_, ?_⟩
  · exact h.fits.lookAt fun c hc => h.line_lt (hentries c hc)
  · intro saved accepted hphase
    rw [hcount]
    exact h.saved_lt saved accepted hphase

/-- The view that is saved when a search begins is in the document. -/
lemma opening (h : a.Placed) (session : Session) : (a.opening session).Placed where
  lineCount_eq := h.lineCount_eq
  fits := h.fits
  saved_lt := by
    intro saved accepted hphase
    obtain ⟨rfl, -⟩ := Phase.searching.inj hphase
    exact h.fits.cursor_lt

/-- When a search has ended there is no saved view, and the viewer was scrolled. -/
lemma of_idle (hidle : b.search.phase = .idle) {v : Viewer} {line : Nat}
    (hviewer : b.viewer = v.scrollTo line) (hcount : v.lineCount = max b.document.lineCount 1)
    (hcursor : v.cursor.line < v.lineCount) : b.Placed where
  lineCount_eq := by
    rw [hviewer]
    exact hcount
  fits := by
    rw [hviewer]
    exact Viewer.fits_scrollTo hcursor line
  saved_lt := by simp [hidle]

lemma drawn (h : a.Placed) (height : Nat) :
    Placed { a with viewer := a.viewer.drawn height } :=
  ⟨h.lineCount_eq, h.fits.drawn height, h.saved_lt⟩

end Placed

lemma placed_new (d : Document) (theme : Theme) (showLineNumbers : Bool) (keymap : Keymap) :
    (new d theme showLineNumbers keymap).Placed where
  lineCount_eq := rfl
  fits := Viewer.fits_ofLineCount d.lineCount
  saved_lt := by simp [new]

variable [Regex.Engine]

lemma AtRest.line_lt (h : a.AtRest) (hv : a.picker.visible = true) {entry : Candidate}
    (hentry : entry ∈ a.picker.items) : entry.found.line < a.document.lineCount := by
  have hitems : a.picker.items = Search.listing a.document a.picker.value := h.items_eq hv
  rw [hitems] at hentry
  exact Search.line_lt_of_mem_listing hentry

lemma Placed.answered (h : a.Placed) (query : Text) : (a.answered query).Placed := by
  have hlines : ∀ c ∈ (a.listed query).activeItems, c.found.line < a.document.lineCount := by
    intro c hc
    exact Search.line_lt_of_mem_listing (Picker.mem_items_of_mem_activeItems hc)
  have hlook := h.lookAt hlines
  exact ⟨hlook.lineCount_eq, hlook.fits, hlook.saved_lt⟩

lemma Turn.placed (hrest : a.AtRest) (h : a.Placed) (hturn : Turn a c b) : b.Placed := by
  cases hturn with
  | stay => exact h
  | quit => exact ⟨h.lineCount_eq, h.fits, h.saved_lt⟩
  | read _ hv =>
    have hcount := a.viewer.lineCount_obey a.document c
    refine ⟨hcount.trans h.lineCount_eq, h.fits.obey a.document c, ?_⟩
    intro saved accepted hphase
    exact absurd ((hrest.idle hv).symm.trans hphase) (by simp)
  | begin _ hv session kept => exact (h.opening session).answered session.lastQuery
  | retype _ hv input =>
    have hinput : Placed { a with picker := { a.picker with input } } :=
      ⟨h.lineCount_eq, h.fits, h.saved_lt⟩
    exact hinput.answered input.text
  | caret => exact ⟨h.lineCount_eq, h.fits, h.saved_lt⟩
  | focus _ hv i lt =>
    have hlines : ∀ e ∈ { a.picker with active := some i }.activeItems,
        e.found.line < a.document.lineCount := by
      intro e he
      have hmem : e ∈ { a.picker with active := some i }.items :=
        Picker.mem_items_of_mem_activeItems he
      exact hrest.line_lt hv hmem
    have hlook := h.lookAt hlines
    exact ⟨hlook.lineCount_eq, hlook.fits, hlook.saved_lt⟩
  | commit hv entry mem active =>
    have hline : entry.found.target.active.line < a.viewer.lineCount := by
      rw [entry.found.target_active_line]
      exact h.line_lt (hrest.line_lt hv mem)
    exact Placed.of_idle rfl rfl h.lineCount_eq hline
  | cancel hv saved hphase =>
    exact Placed.of_idle rfl rfl h.lineCount_eq (h.saved_lt saved false hphase)

/-- As long as the program runs its viewer stays within the document. -/
lemma Placed.run (hrest : a.AtRest) (h : a.Placed) (inputs : List Input) :
    (a.run inputs).Placed :=
  hrest.run_induction (fun _ _ _ hrest h hturn => hturn.placed hrest h)
    (fun _ height h => h.drawn height) h inputs

lemma Reachable.placed (h : a.Reachable) : a.Placed := by
  obtain ⟨d, theme, showLineNumbers, keymap, inputs, rfl⟩ := h
  have hrest := atRest_new d theme showLineNumbers keymap
  exact (placed_new d theme showLineNumbers keymap).run hrest inputs

end App

end LineSearch
