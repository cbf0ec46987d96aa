/-
# The state of a search and its history

A search hears one event after the other, and at each of them its partners may show anything: the
picker, the viewer and the document change between the events as they like.  Here the state of the
search is read off from the course of the events alone.

A search goes on if and only if there was a wish to begin one that was heard, and the picker has
not been hidden since then (`GoesOnSince`).  The saved view is what the viewer showed at that
moment, and a match counts as accepted if and only if one was accepted since then.  The main result
is `course_law`.
-/
import LineSearch.Proofs.Search.Step
import Mathlib.Data.List.Induction

namespace LineSearch.Search

/-- An event, and what the partners showed when it happened. -/
abbrev Occurrence := Surroundings × SearchEvent

/-- A search to which nothing has happened yet. -/
def new (palette : Highlight.Palette) : Search := { palette }

variable [Regex.Engine]

/-- The search after a course of events, the first of which happened first. -/
def run (s : Search) (course : List Occurrence) : Search :=
  course.foldl (fun s o => (s.step o.1 o.2).1) s

@[simp] lemma run_nil (s : Search) : s.run [] = s := rfl

@[simp] lemma run_cons (s : Search) (o : Occurrence) (course : List Occurrence) :
    s.run (o :: course) = (s.step o.1 o.2).1.run course := rfl

lemma run_append (s : Search) (before since : List Occurrence) :
    s.run (before ++ since) = (s.run before).run since := by
  simp [run, List.foldl_append]

/-- In the course the wish `o` to begin a search was heard, `since` has happened after it, and the
picker was not hidden in that time. -/
def GoesOnSince (s : Search) (course : List Occurrence) (o : Occurrence)
    (since : List Occurrence) : Prop :=
  ∃ before, course = before ++ o :: since ∧ o.2.opens = true ∧ (s.run before).phase = .idle ∧
    ∀ x ∈ since, x.2 ≠ .hidden

variable {s : Search} {course since : List Occurrence} {o : Occurrence}

/-- One more event does not end a search, unless the picker is hidden. -/
lemma GoesOnSince.append (h : s.GoesOnSince course o since) {x : Occurrence} (hx : x.2 ≠ .hidden) :
    s.GoesOnSince (course ++ [x]) o (since ++ [x]) := by
  obtain ⟨before, rfl, ho, hidle, hsince⟩ := h
  refine ⟨before, by simp, ho, hidle, ?_⟩
  intro y hy
  rcases List.mem_append.mp hy with hy | hy
  · exact hsince y hy
  · rw [List.mem_singleton.mp hy]
    exact hx

/-! ## From the course to the phase -/

/-- Until the picker is hidden the saved view stays what it is, and the acceptances add up. -/
lemma phase_run_of_searching {saved : SavedView} {accepted : Bool}
    (h : s.phase = .searching saved accepted) (hc : ∀ x ∈ course, x.2 ≠ .hidden) :
    (s.run course).phase =
      .searching saved (accepted || course.any fun x => Accepts x.1 x.2) := by
  induction course generalizing s accepted with
  | nil => simpa using h
  | cons x course ih =>
    have hx : x.2 ≠ .hidden := hc x (by simp)
    have hstep := phase_step_of_searching h x.1 hx
    rw [run_cons, ih hstep fun y hy => hc y (by simp [hy])]
    simp [Bool.or_assoc]

lemma GoesOnSince.phase_run (h : s.GoesOnSince course o since) :
    (s.run course).phase =
      .searching ⟨o.1.selection, o.1.topLine⟩ (since.any fun x => Accepts x.1 x.2) := by
  obtain ⟨before, rfl, ho, hidle, hsince⟩ := h
  have hbegun : ((s.run before).step o.1 o.2).1.phase
      = .searching ⟨o.1.selection, o.1.topLine⟩ false := by
    rw [phase_step_of_idle hidle, if_pos ho]
  rw [run_append, run_cons, phase_run_of_searching hbegun hsince]
  simp

/-! ## From the phase to the course -/

/-- If a search goes on, it goes on since some wish to begin one. -/
lemma exists_goesOnSince (hs : s.phase = .idle) (h : (s.run course).phase ≠ .idle) :
    ∃ o since, s.GoesOnSince course o since := by
  induction course using List.reverseRecOn with
  | nil => exact absurd hs h
  | append_singleton course x ih =>
    rw [run_append, run_cons, run_nil] at h
    by_cases hidle : (s.run course).phase = .idle
    · -- the last event began the search
      rw [phase_step_of_idle hidle] at h
      have hx : x.2.opens = true := by
        by_contra hx
        exact h (if_neg hx)
      exact ⟨x, [], course, rfl, hx, hidle, by simp⟩
    · -- the search went on before, and the last event has not ended it
      obtain ⟨o, since, hgo⟩ := ih hidle
      have hx : x.2 ≠ .hidden := by
        intro hx
        obtain ⟨w, e⟩ := x
        subst hx
        rw [step_hidden hgo.phase_run] at h
        exact h rfl
      exact ⟨o, since ++ [x], hgo.append hx⟩

lemma isSearching_run_iff (hs : s.phase = .idle) :
    (s.run course).isSearching = true ↔ ∃ o since, s.GoesOnSince course o since := by
  constructor
  · intro h
    apply exists_goesOnSince hs
    intro hidle
    rw [isSearching_eq_false_iff.mpr hidle] at h
    exact Bool.false_ne_true h
  · rintro ⟨o, since, hgo⟩
    exact isSearching_iff.mpr ⟨_, _, hgo.phase_run⟩

/-! ## The law -/

/-- **The course of a search.**  After any course of events:

* a search goes on if and only if a wish to begin one was heard after which the picker was not
  hidden;
* then the saved view is the selection and the top line of that moment, and a match is accepted if
  and only if an entry was selected at some acceptance since then;
* when the picker is hidden now, the search ends, and the viewer is set back to exactly the saved
  view, or is not called at all if a match was accepted;
* the session changes only at a wish to search for a given text outside of a search, which it then
  remembers without an entry, and at the acceptance of a selected entry during one, which it then
  remembers with the value of the picker;
* what is ignored changes nothing and calls nobody. -/
theorem course_law (palette : Highlight.Palette) (course : List Occurrence) :
    let s := (new palette).run course
    (s.isSearching = true ↔ ∃ o since, (new palette).GoesOnSince course o since) ∧
      (∀ o since, (new palette).GoesOnSince course o since →
        ∃ accepted, s.phase = .searching ⟨o.1.selection, o.1.topLine⟩ accepted ∧
          (accepted = true ↔ ∃ x ∈ since, x.2 = .accepted ∧ x.1.pickerSelected ≠ [])) ∧
      (∀ w saved accepted, s.phase = .searching saved accepted →
        (s.step w .hidden).1.phase = .idle ∧
        Call.toViewer (s.step w .hidden).2 =
          if accepted then []
          else [.setSelection saved.selection, .setTopLine saved.topLine]) ∧
      (∀ w e, (s.step w e).1.session ≠ s.session →
        (s.isSearching = false ∧ ∃ seed, e = .openedWith seed) ∨
        (s.isSearching = true ∧ e = .accepted ∧ w.pickerSelected ≠ [])) ∧
      (∀ w seed, s.isSearching = false →
        (s.step w (.openedWith seed)).1.session = ⟨seed, none⟩) ∧
      (∀ w c rest, s.isSearching = true → w.pickerSelected = c :: rest →
        (s.step w .accepted).1.session = ⟨w.pickerValue, some c⟩) ∧
      (∀ w e, s.Ignores w e → s.step w e = (s, [])) := by
  have hnew : (new palette).phase = .idle := rfl
  intro s
  have hs : (new palette).run course = s := rfl
  clear_value s
  refine ⟨?_, ?_, ?_, ?_, ?_, ?_, ?_⟩
  · rw [← hs]
    exact isSearching_run_iff hnew
  · intro o since hgo
    refine ⟨_, hs ▸ hgo.phase_run, ?_⟩
    simp only [List.any_eq_true, decide_eq_true_eq]
    rfl
  · intro w saved accepted h
    rw [step_hidden h]
    refine ⟨rfl, ?_⟩
    cases accepted <;> rfl
  · intro w e h
    rcases session_step_eq_or s w e with heq | ⟨hidle, hseed⟩ | ⟨hgo, hacc⟩
    · exact absurd heq h
    · exact Or.inl ⟨isSearching_eq_false_iff.mpr hidle, hseed⟩
    · exact Or.inr ⟨hgo, hacc⟩
  · intro w seed h
    rw [step_of_opens (isSearching_eq_false_iff.mp h) rfl]
    rfl
  · intro w c rest h hw
    obtain ⟨saved, accepted, hsearching⟩ := isSearching_iff.mp h
    rw [step_accepted_cons hsearching hw]
    rfl
  · intro w e h
    exact step_of_ignores h

end LineSearch.Search
