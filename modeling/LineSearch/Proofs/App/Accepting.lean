/-
# Accepting the active entry

Enter accepts the entry that is active: the search ends, the entry is remembered together with the
query, and the viewer goes to its match and shows its line.  If nothing is listed Enter does nothing
at all.  The main result is `handle_enter_of_reachable`.
-/
import LineSearch.Proofs.App.Places
import LineSearch.Regex.Matching

namespace LineSearch

/-- In a list that is not empty one entry is active. -/
lemma Picker.Sound.exists_active {p : Picker} (h : p.Sound) (hitems : p.items ≠ []) :
    ∃ i entry, p.active = some i ∧ p.items[i]? = some entry ∧ p.activeItems = [entry] := by
  obtain ⟨i, hi⟩ := Option.ne_none_iff_exists'.mp (mt h.active_eq_none_iff.mp hitems)
  have hlt : i < p.items.length := h.active_lt i hi
  exact ⟨i, p.items[i], hi, List.getElem?_eq_getElem hlt, by simp [activeItems, hi, hlt]⟩

namespace App

variable {a : App}

/-- The viewer shows the match that was accepted. -/
lemma shows_committed {entry : Candidate} (hline : entry.found.line < a.viewer.lineCount) :
    (a.committed entry).viewer.Shows entry.found.line := by
  rw [← entry.found.target_start_line] at hline ⊢
  exact Viewer.shows_revealCentered (v := { a.viewer with selection := entry.found.target }) hline

/-- **Accepting the active entry.**  Take any program that was begun some time ago and whose picker
is visible.  If the list is not empty, one of its entries is active.  Then Enter hides the picker and
ends the search, nothing is painted any more, and the query of the picker is remembered with this
entry.  The selection becomes the span that was found last in the line of the entry, or the beginning
of this line if no span was found, and the line is visible.  If the list is empty, Enter changes
nothing at all. -/
theorem handle_enter_of_reachable [Regex.Engine] (hreach : a.Reachable)
    (hv : a.picker.visible = true) :
    (a.picker.items ≠ [] →
      ∃ i entry, a.picker.active = some i ∧ a.picker.items[i]? = some entry ∧
        let b := a.handle .enter
        b.picker.visible = false ∧ b.search.phase = .idle ∧ b.highlights = {} ∧
          b.search.session = ⟨a.picker.value, some entry⟩ ∧
          b.viewer.selection = entry.found.target ∧
          (∀ s, entry.found.spans.getLast? = some s →
            entry.found.target = ⟨⟨entry.found.line, s.start⟩, ⟨entry.found.line, s.stop⟩⟩) ∧
          (entry.found.spans = [] → entry.found.target = .cursor ⟨entry.found.line, 0⟩) ∧
          b.viewer.Shows entry.found.line) ∧
      (a.picker.items = [] → a.handle .enter = a) := by
  have hrest : a.AtRest := hreach.atRest
  refine ⟨fun hitems => ?_, fun hitems => ?_⟩
  · obtain ⟨saved, hphase⟩ := hrest.searching hv
    obtain ⟨i, entry, hactive, hget, hentry⟩ := hrest.sound.exists_active hitems
    have hline : entry.found.line < a.viewer.lineCount :=
      hreach.placed.line_lt (hrest.line_lt hv (List.mem_of_getElem? hget))
    refine ⟨i, entry, hactive, hget, ?_⟩
    rw [handle_enter hphase hrest.events_nil hv hentry]
    refine ⟨rfl, rfl, rfl, rfl, rfl, fun s hs => ?_, fun hspans => ?_, shows_committed hline⟩
    · simp [LineMatch.target, hs]
    · simp [LineMatch.target, hspans]
  · exact handle_enter_of_nil hrest.toQuiet hv (hrest.sound.activeItems_eq_nil_iff.mpr hitems)

attribute [local instance] Regex.Engine.tables

/-- In a text of three lines Enter does nothing before a query is typed.  Then two entries are found,
and the second one is accepted while only three lines fit on the screen. -/
theorem handle_enter_of_reachable_second_entry :
    let opened := (new (.ofText "one\ntwo\nthree two".toList) .default true {}).run
      [.draw 40 5, .command .search]
    let a := (new (.ofText "one\ntwo\nthree two".toList) .default true {}).run
      [.draw 40 5, .command .search, .command (.type 't'), .command (.type 'w'),
        .command (.move .down)]
    opened.handle .enter = opened ∧ a.picker.visible = true ∧ a.picker.items.length = 2 ∧
      ∃ i entry, a.picker.active = some i ∧ a.picker.items[i]? = some entry ∧
        (a.handle .enter).search.session = ⟨"tw".toList, some entry⟩ ∧
        (a.handle .enter).viewer.Shows entry.found.line := by
  intro opened a
  have hopened : opened.Reachable := ⟨_, _, _, _, _, rfl⟩
  have hnone : opened.picker.items = [] := by decide
  have hnothing : opened.handle .enter = opened :=
    (handle_enter_of_reachable hopened rfl).2 hnone
  have hreach : a.Reachable := ⟨_, _, _, _, _, rfl⟩
  have hvisible : a.picker.visible = true := rfl
  have hlength : a.picker.items.length = 2 := by decide
  have hitems : a.picker.items ≠ [] := List.ne_nil_of_length_eq_add_one hlength
  obtain ⟨i, entry, hactive, hget, -, -, -, hsession, -, -, -, hshows⟩ :=
    (handle_enter_of_reachable hreach hvisible).1 hitems
  have hvalue : a.picker.value = "tw".toList := by decide
  rw [hvalue] at hsession
  exact ⟨hnothing, hvisible, hlength, i, entry, hactive, hget, hsession, hshows⟩

end App

end LineSearch
