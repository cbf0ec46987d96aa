/-
# The viewer follows the focus

While entries are listed the viewer looks at the active one: the cursor is at the beginning of its
line, whatever else has happened (`Follows`).  The viewer is only told to look when another entry
becomes active, so it may be that a screen of another height no longer shows the line; as long as
the height stays the same, looking once more would change nothing (`Previews`), and the line is
visible.  When a search is opened again the entry that was accepted is the active one, and so this
is the one that is looked at in the end.  The main result is `preview_run`.
-/
import LineSearch.Proofs.App.Accepting
import LineSearch.Proofs.Candidate
import LineSearch.Regex.Matching

namespace LineSearch

namespace App

variable {a b : App} {c : Command}

/-- While the picker is visible, the cursor is at the beginning of the line of the active entry. -/
def Follows (a : App) : Prop :=
  a.picker.visible = true → ∀ entry ∈ a.picker.activeItems,
    a.viewer.selection = .cursor ⟨entry.found.line, 0⟩

/-- While the picker is visible, looking at the active entry once more would change nothing. -/
def Previews (a : App) : Prop :=
  a.picker.visible = true → a.viewer.lookAt a.picker.activeItems = a.viewer

lemma Previews.preview_eq_self (h : a.Previews) (hv : a.picker.visible = true) {entry : Candidate}
    (hentry : entry ∈ a.picker.activeItems) : a.viewer.preview entry.found.line = a.viewer := by
  have hlook := h hv
  rcases a.picker.activeItems_eq_nil_or with hnil | ⟨active, -, hactive⟩
  · simp [hnil] at hentry
  · rw [hactive] at hentry hlook
    obtain rfl := List.mem_singleton.mp hentry
    exact hlook

lemma Previews.follows (h : a.Previews) : a.Follows := by
  intro hv entry hentry
  exact (Viewer.preview_eq_self_iff.mp (h.preview_eq_self hv hentry)).1

lemma previews_of_hidden (hv : a.picker.visible = false) : a.Previews := by
  intro hvisible
  exact absurd (hv.symm.trans hvisible) (by decide)

variable [Regex.Engine]

lemma previews_answered (a : App) (query : Text) : (a.answered query).Previews :=
  fun _ => a.viewer.lookAt_idem (a.listed query).activeItems

/-- **A turn that changes what is to be looked at looks at it.**  After a turn the viewer looks at
the active entry, or both are as they were. -/
lemma Turn.previews_or (hturn : Turn a c b) :
    b.Previews ∨ (b.viewer = a.viewer ∧ b.picker.visible = a.picker.visible ∧
      b.picker.activeItems = a.picker.activeItems) := by
  cases hturn with
  | stay => exact Or.inr ⟨rfl, rfl, rfl⟩
  | quit => exact Or.inr ⟨rfl, rfl, rfl⟩
  | read _ hv => exact Or.inl (previews_of_hidden hv)
  | begin _ hv session kept => exact Or.inl (previews_answered (a.opening session) _)
  | retype _ hv input => exact Or.inl (previews_answered _ _)
  | caret _ hv input same => exact Or.inr ⟨rfl, rfl, rfl⟩
  | focus _ hv i lt => exact Or.inl fun _ => a.viewer.lookAt_idem _
  | commit => exact Or.inl (previews_of_hidden rfl)
  | cancel => exact Or.inl (previews_of_hidden rfl)

lemma Turn.follows (h : a.Follows) (hturn : Turn a c b) : b.Follows := by
  rcases hturn.previews_or with hlook | ⟨hviewer, hvisible, hactive⟩
  · exact hlook.follows
  · rw [Follows, hviewer, hvisible, hactive]
    exact h

lemma Turn.previews (h : a.Previews) (hturn : Turn a c b) : b.Previews := by
  rcases hturn.previews_or with hlook | ⟨hviewer, hvisible, hactive⟩
  · exact hlook
  · rw [Previews, hviewer, hvisible, hactive]
    exact h

omit [Regex.Engine] in
/-- A drawing on which as many lines are visible as before leaves everything in its place. -/
lemma Previews.drawn (h : a.Previews) {height : Nat}
    (hheight : (a.viewer.drawn height).height = a.viewer.height) :
    Previews { a with viewer := a.viewer.drawn height } := by
  intro hv
  have hlook := h hv
  change (a.viewer.drawn height).lookAt a.picker.activeItems = a.viewer.drawn height
  cases hactive : a.picker.activeItems with
  | nil => rfl
  | cons entry rest =>
    rw [hactive] at hlook
    have hself := Viewer.preview_eq_self_iff.mp hlook
    apply Viewer.preview_eq_self_iff.mpr
    rw [hheight]
    exact hself

/-- As long as the program runs the cursor follows the active entry. -/
lemma Follows.run (hrest : a.AtRest) (h : a.Follows) (inputs : List Input) :
    (a.run inputs).Follows :=
  hrest.run_induction (fun _ _ _ _ h hturn => hturn.follows h) (fun _ _ h => h) h inputs

lemma Reachable.follows (h : a.Reachable) : a.Follows := by
  obtain ⟨d, theme, showLineNumbers, keymap, inputs, rfl⟩ := h
  have hnew : (new d theme showLineNumbers keymap).Follows := (previews_of_hidden rfl).follows
  exact hnew.run (atRest_new d theme showLineNumbers keymap) inputs

/-- As long as the program runs and as many lines stay visible, the viewer looks at the active
entry. -/
lemma Previews.run (hquiet : a.Quiet) (h : a.Previews) {inputs : List Input}
    (hsteady : ∀ part, part <+: inputs → (a.run part).viewer.height = a.viewer.height) :
    (a.run inputs).Previews := by
  induction inputs generalizing a with
  | nil => exact h
  | cons i rest ih =>
    have hheight : (a.advance i).viewer.height = a.viewer.height :=
      hsteady [i] ⟨rest, rfl⟩
    have hrest : ∀ part, part <+: rest →
        ((a.advance i).run part).viewer.height = (a.advance i).viewer.height := by
      intro part hpart
      rw [hheight]
      exact hsteady (i :: part) (List.cons_prefix_cons.mpr ⟨rfl, hpart⟩)
    rw [run_cons]
    rcases turn_or_drawn hquiet i with ⟨c, hturn⟩ | ⟨height, hdraw⟩
    · exact ih (hturn.quiet hquiet) (hturn.previews h) hrest
    · rw [hdraw] at hheight hrest ⊢
      exact ih (hquiet.drawn height) (h.drawn hheight) hrest

/-! ## What is remembered is still listed -/

/-- The entry that is remembered is one that would be listed for the remembered query. -/
def Remembers (a : App) : Prop :=
  ∀ entry, a.search.session.lastSelected = some entry →
    entry ∈ Search.listing a.document a.search.session.lastQuery

lemma Turn.remembers (hrest : a.AtRest) (h : a.Remembers) (hturn : Turn a c b) : b.Remembers := by
  cases hturn with
  | begin _ hv session kept =>
    rcases kept with rfl | ⟨seed, rfl⟩
    · exact h
    · intro entry hentry
      exact absurd hentry (by simp [begun, opening, answered, Session.seeded])
  | commit hv entry mem active =>
    intro e he
    obtain rfl : entry = e := Option.some.inj he
    rw [hrest.items_eq hv] at mem
    exact mem
  | _ => exact h

/-- As long as the program runs it remembers an entry that would be listed. -/
lemma Remembers.run (hrest : a.AtRest) (h : a.Remembers) (inputs : List Input) :
    (a.run inputs).Remembers :=
  hrest.run_induction (fun _ _ _ hrest h hturn => hturn.remembers hrest h) (fun _ _ h => h) h inputs

lemma Reachable.remembers (h : a.Reachable) : a.Remembers := by
  obtain ⟨d, theme, showLineNumbers, keymap, inputs, rfl⟩ := h
  have hnew : (new d theme showLineNumbers keymap).Remembers := by
    intro entry hentry
    exact absurd hentry (by simp [new])
  exact hnew.run (atRest_new d theme showLineNumbers keymap) inputs

end App

/-- An entry that is remembered and listed is chosen when its query is answered. -/
lemma Search.chosen_of_mem_listing [Regex.Engine] {s : Search} {d : Document} {c : Candidate}
    (hlast : s.session.lastSelected = some c) (h : c ∈ listing d s.session.lastQuery) :
    s.chosen d s.session.lastQuery = some c := by
  cases hq : Query.isSearchable s.session.lastQuery with
  | false => simp [listing, hq] at h
  | true =>
    rw [listing, if_pos hq, Candidate.mem_list hq] at h
    rw [chosen, if_pos hq, Session.reselect_list hlast h.2, if_pos ⟨h.1, rfl⟩]

namespace App

section

variable [Regex.Engine] {a : App}

/-- The line that is looked at is visible. -/
lemma Previews.shows (hreach : a.Reachable) (h : a.Previews) (hv : a.picker.visible = true)
    {entry : Candidate} (hentry : entry ∈ a.picker.activeItems) :
    a.viewer.Shows entry.found.line := by
  have hline : entry.found.line < a.viewer.lineCount :=
    hreach.placed.line_lt (hreach.atRest.line_lt hv (Picker.mem_items_of_mem_activeItems hentry))
  exact Viewer.shows_of_preview_eq_self (h.preview_eq_self hv hentry) hline

/-- When a search is opened again the remembered entry is the active one. -/
lemma activeItems_begun (h : a.Remembers) {entry : Candidate}
    (hentry : a.search.session.lastSelected = some entry) :
    (a.begun a.search.session).picker.activeItems = [entry] :=
  activeItems_listed (a := a.opening a.search.session)
    (Search.chosen_of_mem_listing hentry (h entry hentry))

/-- A search that is opened again looks at the remembered entry. -/
lemma Reachable.openSearch_of_lastSelected (hreach : a.Reachable) (hv : a.picker.visible = false)
    {entry : Candidate} (hentry : a.search.session.lastSelected = some entry) :
    let b := a.openSearch
    a.handle .search = b ∧ b.picker.visible = true ∧ entry ∈ b.picker.items ∧
      b.picker.activeItems = [entry] ∧ b.viewer.selection = .cursor ⟨entry.found.line, 0⟩ ∧
      b.viewer.Shows entry.found.line := by
  intro b
  have hbegun : b = a.begun a.search.session :=
    asked_of_idle (e := .opened) (hreach.atRest.idle hv) rfl
  have hopened : b.Reachable := hreach.run [.openSearch]
  have hvisible : b.picker.visible = true := by
    rw [hbegun]
    rfl
  have hpreviews : b.Previews := by
    rw [hbegun]
    exact previews_answered _ _
  have hactive : b.picker.activeItems = [entry] := by
    rw [hbegun]
    exact activeItems_begun hreach.remembers hentry
  have hmem : entry ∈ b.picker.activeItems := hactive ▸ List.mem_singleton_self entry
  exact ⟨handle_search hv, hvisible, Picker.mem_items_of_mem_activeItems hmem, hactive,
    hpreviews.follows hvisible entry hmem, hpreviews.shows hopened hvisible hmem⟩

/-- **The viewer follows the focus.**  Let a program be begun with any document and any theme, and
let anything happen to it in any order.

* Whenever the picker is visible and its list is not empty, one entry is active, and the selection
  is the empty one at the beginning of its line.  If as many lines have been visible all the time
  since the picker was hidden, this line is visible.
* Whenever the picker is hidden and an entry is remembered, a search that is opened with the last
  query makes this entry the active one.  Then the selection is at the beginning of its line, and
  the line is visible. -/
theorem preview_run (d : Document) (theme : Theme) (showLineNumbers : Bool) (keymap : Keymap)
    (inputs : List Input) :
    let start := new d theme showLineNumbers keymap
    let a := start.run inputs
    (a.picker.visible = true → a.picker.items ≠ [] →
      ∃ i entry, a.picker.active = some i ∧ a.picker.items[i]? = some entry ∧
        a.viewer.selection = .cursor ⟨entry.found.line, 0⟩ ∧
        ∀ before after, inputs = before ++ after → (start.run before).picker.visible = false →
          (∀ part, part <+: after →
            (start.run (before ++ part)).viewer.height = a.viewer.height) →
          a.viewer.Shows entry.found.line) ∧
      (a.picker.visible = false → ∀ entry, a.search.session.lastSelected = some entry →
        let b := a.openSearch
        a.handle .search = b ∧ b.picker.visible = true ∧ entry ∈ b.picker.items ∧
          b.picker.activeItems = [entry] ∧ b.viewer.selection = .cursor ⟨entry.found.line, 0⟩ ∧
          b.viewer.Shows entry.found.line) := by
  intro start a
  have hreach (more : List Input) : (start.run more).Reachable :=
    ⟨d, theme, showLineNumbers, keymap, more, rfl⟩
  refine ⟨fun hv hitems => ?_, fun hv entry hentry => ?_⟩
  · obtain ⟨i, entry, hactive, hget, hone⟩ := (hreach inputs).atRest.sound.exists_active hitems
    have hmem : entry ∈ a.picker.activeItems := hone ▸ List.mem_singleton_self entry
    refine ⟨i, entry, hactive, hget, (hreach inputs).follows hv entry hmem, ?_⟩
    intro before after hinputs hhidden hsteady
    have hrun : a = (start.run before).run after := by
      rw [← run_append, ← hinputs]
    have hbefore : (start.run before).viewer.height = a.viewer.height := by
      simpa using hsteady [] List.nil_prefix
    have hpreviews : a.Previews := by
      rw [hrun]
      refine (previews_of_hidden hhidden).run (hreach before).atRest.toQuiet ?_
      intro part hpart
      rw [← run_append, hsteady part hpart, hbefore]
    exact hpreviews.shows (hreach inputs) hv hmem
  · exact (hreach inputs).openSearch_of_lastSelected hv hentry

end

attribute [local instance] Regex.Engine.tables

/-- Three lines of the document are visible.  The second of two entries is accepted, and when the
search is opened again the viewer is not at the first one. -/
theorem preview_run_second_entry :
    let d : Document := .ofText "one\ntwo\nthree two".toList
    let start := new d .default true {}
    let before : List Input := [.draw 40 5, .command .search, .command (.type 't'),
      .command (.type 'w'), .command (.move .down), .command .enter]
    let a := start.run before
    let b := start.run (before ++ [.command .search])
    let c : Candidate := ⟨"2: three two".toList, "tw".toList, ⟨2, [⟨6, 2⟩]⟩⟩
    (a.picker.visible = false ∧ b.picker.visible = true ∧ b.picker.items.length = 2 ∧
        a.search.session.lastSelected = some c) ∧
      (∃ i entry, b.picker.active = some i ∧ b.picker.items[i]? = some entry ∧
        b.viewer.selection = .cursor ⟨entry.found.line, 0⟩ ∧ b.viewer.Shows entry.found.line) ∧
      a.openSearch.picker.activeItems = [c] ∧ a.openSearch.viewer.selection = .cursor ⟨2, 0⟩ := by
  intro d start before a b c
  have hstart : start = new d .default true {} := rfl
  have hhidden : a.picker.visible = false := by decide
  have hvisible : b.picker.visible = true := by decide
  have hlength : b.picker.items.length = 2 := by decide
  have hlast : a.search.session.lastSelected = some c := by decide
  have hitems : b.picker.items ≠ [] := List.ne_nil_of_length_eq_add_one hlength
  have hsteady : ∀ part, part <+: [Input.command .search] →
      (start.run (before ++ part)).viewer.height = b.viewer.height := by
    intro part hpart
    rcases List.prefix_cons_iff.mp hpart with rfl | ⟨rest, rfl, hrest⟩
    · decide
    · obtain rfl := List.prefix_nil.mp hrest
      rfl
  -- nothing below runs the program again: the run is only compared by its name
  have hfollows := preview_run d .default true {}
  rw [← hstart] at hfollows
  clear_value start
  obtain ⟨i, entry, hactive, hget, hselection, hshows⟩ :=
    (hfollows (before ++ [.command .search])).1 hvisible hitems
  have hseen : b.viewer.Shows entry.found.line :=
    hshows before [.command .search] rfl hhidden hsteady
  obtain ⟨-, -, -, hone, hlooked, -⟩ := (hfollows before).2 hhidden c hlast
  exact ⟨⟨hhidden, hvisible, hlength, hlast⟩, ⟨i, entry, hactive, hget, hselection, hseen⟩,
    hone, hlooked⟩

end App

end LineSearch
