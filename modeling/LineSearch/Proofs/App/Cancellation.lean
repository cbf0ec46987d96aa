/-
# A cancelled search leaves no trace

When a search is cancelled the program is what it was before the search, except for what is left in
the picker, which is not visible.  And of that nothing can be seen ever after, because the next
search overwrites all of it: two programs that differ in a picker that is not visible stay alike
(`Alike.run`).  The main result is `alike_run_search_escape`.
-/
import LineSearch.Proofs.App.Places
import LineSearch.Regex.Matching

namespace LineSearch.App

variable {a b x y : App} {c : Command}

/-! ## Programs that differ in a hidden picker -/

/-- The programs are the same, except for their pickers when these are not visible. -/
structure Alike (x y : App) : Prop where
  rest_eq : { x with picker := y.picker } = y
  visible_eq : x.picker.visible = y.picker.visible
  picker_eq : x.picker.visible = true → x.picker = y.picker

lemma Alike.refl (x : App) : Alike x x := ⟨rfl, rfl, fun _ => rfl⟩

lemma Alike.eq_of_visible (h : Alike x y) (hv : x.picker.visible = true) : x = y := by
  rw [← h.rest_eq, ← h.picker_eq hv]

/-- Programs that are alike show the same. -/
lemma Alike.frame_eq [Text.Layout] (h : Alike x y) (width height : Nat) :
    x.frame width height = y.frame width height := by
  cases hv : x.picker.visible with
  | true => rw [h.eq_of_visible hv]
  | false =>
    have hy : y.picker.visible = false := h.visible_eq.symm.trans hv
    rw [← h.rest_eq]
    simp [frame, documentView, statusText, hv, hy]

section Hidden

variable {p : Picker} (hx : x.picker.visible = false) (hp : p.visible = false)
include hx hp

lemma alike_of_hidden : Alike x { x with picker := p } where
  rest_eq := rfl
  visible_eq := hx.trans hp.symm
  picker_eq := by simp [hx]

variable [Regex.Engine]

/-- A search overwrites the whole picker when it begins. -/
lemma alike_asked {e : SearchEvent} (he : e.opens = true) :
    Alike (x.asked e) ({ x with picker := p }.asked e) := by
  cases hphase : x.search.phase with
  | idle =>
    have hidle : { x with picker := p }.search.phase = .idle := hphase
    rw [asked_of_idle hphase he, asked_of_idle hidle he]
    exact Alike.refl _
  | searching saved accepted =>
    have hs : x.search.isSearching = true := Search.isSearching_iff.mpr ⟨saved, accepted, hphase⟩
    rw [asked_of_searching hs, asked_of_searching (by exact hs)]
    exact alike_of_hidden hx hp

lemma alike_handle (c : Command) : Alike (x.handle c) ({ x with picker := p }.handle c) := by
  by_cases hquit : c = .quit
  · subst hquit
    exact ⟨rfl, hx.trans hp.symm, by simp [handle, hx]⟩
  by_cases hsearch : c = .search
  · subst hsearch
    rw [handle_search hx, handle_search (by exact hp)]
    exact alike_asked hx hp rfl
  by_cases hword : c = .searchWord
  · subst hword
    rw [handle_searchWord hx, handle_searchWord (by exact hp)]
    exact alike_asked hx hp rfl
  -- the reader is led elsewhere, and both readers go the same way
  rw [handle_of_hidden hx hquit hsearch hword, handle_of_hidden (by exact hp) hquit hsearch hword]
  exact ⟨rfl, hx.trans hp.symm, by simp [hx]⟩

lemma alike_dispatch (e : TerminalEvent) :
    Alike (x.dispatch e) ({ x with picker := p }.dispatch e) := by
  have hcommand : { x with picker := p }.commandOf e = x.commandOf e := by
    unfold commandOf
    simp only [hx, hp]
  rw [dispatch, dispatch, hcommand]
  cases x.commandOf e with
  | some c => exact alike_handle hx hp c
  | none => exact alike_of_hidden hx hp

lemma alike_advance (i : Input) : Alike (x.advance i) ({ x with picker := p }.advance i) := by
  cases i with
  | command c => exact alike_handle hx hp c
  | report e => exact alike_dispatch hx hp e
  | openSearch => exact alike_asked hx hp rfl
  | openSearchWith seed => exact alike_asked hx hp rfl
  | draw width height => exact ⟨rfl, hx.trans hp.symm, by simp [advance, drawn, hx]⟩

end Hidden

section

variable [Regex.Engine]

lemma Alike.advance (h : Alike x y) (i : Input) : Alike (x.advance i) (y.advance i) := by
  cases hv : x.picker.visible with
  | true =>
    obtain rfl := h.eq_of_visible hv
    exact Alike.refl _
  | false =>
    have hy : y.picker.visible = false := h.visible_eq.symm.trans hv
    rw [← h.rest_eq]
    exact alike_advance hv hy i

/-- **Programs that are alike stay so**, whatever happens to both of them. -/
lemma Alike.run (h : Alike x y) (inputs : List Input) : Alike (x.run inputs) (y.run inputs) := by
  induction inputs generalizing x y with
  | nil => exact h
  | cons i inputs ih => exact ih (h.advance i)

end

/-! ## During a search -/

/-- The program `b` is in the middle of a search that was begun in `a`: only the picker, what is
painted and the place of the viewer are not as they were, and the search can give this place
back. -/
structure During (a b : App) : Prop extends Quiet b where
  visible : b.picker.visible = true
  rest_eq : b =
    { a with
      viewer := b.viewer
      highlights := b.highlights
      picker := b.picker
      search := { a.search with
        phase := .searching ⟨a.viewer.selection, a.viewer.topLine⟩ false } }
  lineCount_eq : b.viewer.lineCount = a.viewer.lineCount
  drawnHeight_eq : b.viewer.drawnHeight = a.viewer.drawnHeight

namespace During

lemma phase_eq (h : During a b) :
    b.search.phase = .searching ⟨a.viewer.selection, a.viewer.topLine⟩ false := by
  rw [h.rest_eq]

lemma update (h : During a b) {v : Viewer} {highlights : Highlight.Store} {p : Picker}
    (hquiet : Quiet { b with viewer := v, highlights, picker := p }) (hp : p.visible = true)
    (hcount : v.lineCount = b.viewer.lineCount) (hheight : v.drawnHeight = b.viewer.drawnHeight) :
    During a { b with viewer := v, highlights, picker := p } where
  toQuiet := hquiet
  visible := hp
  rest_eq := congrArg (fun b => { b with viewer := v, highlights, picker := p }) h.rest_eq
  lineCount_eq := hcount.trans h.lineCount_eq
  drawnHeight_eq := hheight.trans h.drawnHeight_eq

variable [Regex.Engine]

lemma begun (a : App) : During a (a.begun a.search.session) where
  toQuiet := quiet_answered (a := a.opening a.search.session) rfl rfl _
  visible := rfl
  rest_eq := rfl
  lineCount_eq := (a.viewer.lookAt_frame _).1
  drawnHeight_eq := (a.viewer.lookAt_frame _).2

/-- The search goes on after a command that neither quits nor cancels nor accepts an entry. -/
lemma turn (h : During a b) (hturn : Turn b c x) (hquit : c ≠ .quit) (hescape : c ≠ .escape)
    (henter : c = .enter → b.picker.items = []) : During a x := by
  have hquiet : x.Quiet := hturn.quiet h.toQuiet
  have hv : b.picker.visible = true := h.visible
  cases hturn with
  | stay => exact h
  | quit => exact absurd rfl hquit
  | read _ hidden => exact absurd (hv.symm.trans hidden) (by decide)
  | begin _ hidden => exact absurd (hv.symm.trans hidden) (by decide)
  | retype _ hv input =>
    obtain ⟨hcount, hheight⟩ := b.viewer.lookAt_frame (b.retyped input).picker.activeItems
    exact h.update hquiet hv hcount hheight
  | caret _ hv input same => exact h.update hquiet hv rfl rfl
  | focus _ hv i lt =>
    obtain ⟨hcount, hheight⟩ := b.viewer.lookAt_frame { b.picker with active := some i }.activeItems
    exact h.update hquiet hv hcount hheight
  | commit hv entry mem active =>
    -- an empty list has no entry to accept
    rw [henter rfl] at mem
    exact absurd mem (by simp)
  | cancel => exact absurd rfl hescape

/-- The search goes on through such commands, one after the other. -/
lemma run (h : During a b) {commands : List Command} (hquit : .quit ∉ commands)
    (hescape : .escape ∉ commands)
    (henter : ∀ before after, commands = before ++ .enter :: after →
      (b.run (before.map .command)).picker.items = []) :
    During a (b.run (commands.map .command)) := by
  induction commands generalizing b with
  | nil => exact h
  | cons c rest ih =>
    have hnext : During a (b.handle c) := by
      refine h.turn (turn_handle h.toQuiet c) ?_ ?_ ?_
      · rintro rfl
        exact hquit (by simp)
      · rintro rfl
        exact hescape (by simp)
      · rintro rfl
        exact henter [] rest rfl
    refine ih hnext (fun hmem => hquit (by simp [hmem])) (fun hmem => hescape (by simp [hmem])) ?_
    intro before after hrest
    exact henter (c :: before) after (by simp [hrest])

/-- Cancelling the search gives back the program in which it was begun. -/
lemma cancelled (h : During a b) (hfits : a.viewer.Fits) (hidle : a.search.phase = .idle)
    (hhighlights : a.highlights = {}) :
    b.handle .escape = { a with picker := { b.picker with visible := false, events := [] } } := by
  have hviewer := hfits.setBack h.lineCount_eq h.drawnHeight_eq
  have hsearch : { b.search with phase := .idle } = a.search := by
    rw [h.rest_eq, ← hidle]
  rw [handle_escape h.phase_eq h.events_nil h.visible, App.cancelled, hviewer, hsearch,
    ← hhighlights]
  exact congrArg (fun x => { x with
    viewer := a.viewer
    highlights := a.highlights
    search := a.search
    picker := { b.picker with visible := false, events := [] } }) h.rest_eq

end During

/-! ## After a search -/

section

variable [Regex.Engine]

/-- **A cancelled search leaves no trace.**  Take any program that was begun some time ago and whose
picker is hidden, and let a search be asked for.  Then let any commands follow, but none to quit and
none to accept an entry of a list that has one, and let the search be cancelled.  Then the viewer,
the search with its phase and its session, the highlights, of which there are none, and whether to
quit are as they were before, and the picker is hidden again.  And whatever happens later on, it
makes no difference whether there was such a search or not. -/
theorem alike_run_search_escape (hreach : a.Reachable) (hidden : a.picker.visible = false)
    {commands : List Command} (hquit : .quit ∉ commands) (hescape : .escape ∉ commands)
    (henter : ∀ before after, commands = before ++ .enter :: after →
      (a.run ((.search :: before).map .command)).picker.items = []) :
    let b := a.run ((.search :: (commands ++ [.escape])).map .command)
    b.viewer = a.viewer ∧ b.search = a.search ∧ b.highlights = a.highlights ∧ a.highlights = {} ∧
      b.quit = a.quit ∧ b.picker.visible = false ∧
      ∀ later : List Input, Alike (a.run later) (b.run later) := by
  intro b
  have hrest : a.AtRest := hreach.atRest
  have hidle : a.search.phase = .idle := hrest.idle hidden
  have hhighlights : a.highlights = {} := hrest.highlights_eq hidden
  have hbegun : a.handle .search = a.begun a.search.session := by
    rw [handle_search hidden, asked_of_idle hidle rfl]
    rfl
  have hduring : During a (a.run ((.search :: commands).map .command)) := by
    rw [List.map_cons, run_cons, advance, hbegun]
    refine (During.begun a).run hquit hescape ?_
    intro before after hcommands
    rw [← hbegun]
    exact henter before after hcommands
  have hb : b = (a.run ((.search :: commands).map .command)).handle .escape := by
    simp only [b, ← List.cons_append, List.map_append, run_append]
    rfl
  rw [hduring.cancelled hreach.placed.fits hidle hhighlights] at hb
  have halike : Alike a b := by
    rw [hb]
    exact alike_of_hidden hidden rfl
  exact ⟨by rw [hb], by rw [hb], by rw [hb], hhighlights, by rw [hb], by rw [hb],
    fun later => halike.run later⟩

end

attribute [local instance] Regex.Engine.tables

/-- In a short text the list is empty when Enter is pressed first.  Then two entries are found, and
the viewer goes to the second one, but comes back when the search is cancelled. -/
theorem alike_run_search_escape_three_lines :
    let a := (new (.ofText "one\ntwo\nthree two".toList) .default true {}).run
      [.draw 80 24, .command (.move .down)]
    let commands : List Command := [.enter, .type 't', .type 'w', .move .down]
    let b := a.run ((.search :: (commands ++ [.escape])).map .command)
    (a.run ((.search :: commands).map .command)).viewer.cursor = ⟨2, 0⟩ ∧
      a.viewer.cursor = ⟨1, 0⟩ ∧ b.viewer = a.viewer ∧
      ∀ later : List Input, Alike (a.run later) (b.run later) := by
  intro a commands b
  have hreach : a.Reachable := ⟨_, _, _, _, _, rfl⟩
  have hhidden : a.picker.visible = false := rfl
  have henter : ∀ before after, commands = before ++ .enter :: after →
      (a.run ((.search :: before).map .command)).picker.items = [] := by
    intro before after h
    cases before with
    | nil => rfl
    | cons c before =>
      -- nothing is accepted later on
      have hmem : Command.enter ∈ [.type 't', .type 'w', .move .down] := by
        rw [(List.cons.inj h).2]
        simp
      exact absurd hmem (by decide)
  have h := alike_run_search_escape hreach hhidden (by decide) (by decide) henter
  exact ⟨by decide, by decide, h.1, h.2.2.2.2.2.2⟩

end LineSearch.App
