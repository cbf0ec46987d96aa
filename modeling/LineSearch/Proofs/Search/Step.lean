/-
# One step of a search

What `Search.step` does, said case by case: what is heard outside of a search, what is heard during
one, and what is ignored.  The calls of a step are looked at partner by partner, since no partner
sees the calls to another one.
-/
import LineSearch.Search
import Mathlib.Tactic.Common

namespace LineSearch

namespace SearchEvent

/-- Whether the event is a wish to begin a search. -/
def opens : SearchEvent → Bool
  | opened | openedWith _ => true
  | _ => false

/-- The session with which a search begins, given the one before. -/
def sessionAfter (last : Session) : SearchEvent → Session
  | openedWith seed => .seeded seed
  | _ => last

lemma sessionAfter_eq_or (e : SearchEvent) (last : Session) :
    e.sessionAfter last = last ∨ ∃ seed, e.sessionAfter last = .seeded seed := by
  cases e with
  | openedWith seed => exact Or.inr ⟨seed, rfl⟩
  | _ => exact Or.inl rfl

end SearchEvent

namespace Call

/-- The calls to the picker among the given ones. -/
def toPicker (calls : List Call) : List PickerCall :=
  calls.filterMap fun | .picker c => some c | _ => none

/-- The calls to the viewer among the given ones. -/
def toViewer (calls : List Call) : List ViewerCall :=
  calls.filterMap fun | .viewer c => some c | _ => none

/-- The calls to the painter among the given ones. -/
def toPainter (calls : List Call) : List Highlight.Paint :=
  calls.filterMap fun | .painter c => some c | _ => none

lemma toPainter_map_painter (paints : List Highlight.Paint) :
    toPainter (paints.map painter) = paints := by
  rw [toPainter, List.filterMap_map]
  exact List.filterMap_some

end Call

/-- What is found again in a list is one of its entries. -/
lemma Session.mem_of_reselect {s : Session} {query : Text} {list : List Candidate} {c : Candidate}
    (h : s.reselect query list = some c) : c ∈ list := by
  unfold reselect at h
  cases hlast : s.lastSelected with
  | none => simp [hlast] at h
  | some last =>
    simp only [hlast] at h
    split at h
    · exact List.mem_of_find?_eq_some h
    · exact absurd h (by simp)

namespace Search

variable {s : Search} {w : Surroundings} {saved : SavedView} {accepted : Bool}

lemma isSearching_iff :
    s.isSearching = true ↔ ∃ saved accepted, s.phase = .searching saved accepted := by
  cases h : s.phase <;> simp [isSearching, h]

lemma isSearching_eq_false_iff : s.isSearching = false ↔ s.phase = .idle := by
  simp [isSearching]

/-! ## The answer to a query -/

variable [Regex.Engine]

/-- The matches of the entries of a list are those that the scan found. -/
lemma map_found_list (d : Document) (query : Text) :
    (Candidate.list d query).map Candidate.found = d.scan (Query.parse query) := by
  simp [Candidate.list, Candidate.ofMatch, Function.comp_def]

/-- The entries that are listed for a query: none if it is too short. -/
def listing (d : Document) (query : Text) : List Candidate :=
  if Query.isSearchable query then Candidate.list d query else []

/-- The entry that is looked at first again when the list of a query is shown. -/
def chosen (s : Search) (d : Document) (query : Text) : Option Candidate :=
  if Query.isSearchable query then s.session.reselect query (Candidate.list d query) else none

lemma mem_listing_of_chosen (s : Search) (d : Document) (query : Text) :
    ∀ c ∈ s.chosen d query, c ∈ listing d query := by
  intro c hc
  cases hq : Query.isSearchable query with
  | false => simp [chosen, hq] at hc
  | true =>
    simp only [chosen, listing, hq, if_true] at hc ⊢
    exact Session.mem_of_reselect hc

lemma toPicker_answer (s : Search) (d : Document) (query : Text) :
    Call.toPicker (s.answer d query) =
      .setItems (listing d query) ::
        (match s.chosen d query with
          | some c => [.setActive [c], .setSelected [c]]
          | none => [.setSelected []]) := by
  cases hq : Query.isSearchable query with
  | false => simp [answer, listing, chosen, hq, Call.toPicker]
  | true =>
    simp only [answer, listing, chosen, hq, if_true]
    cases s.session.reselect query (Candidate.list d query) <;>
      simp [Call.toPicker]

lemma toViewer_answer (s : Search) (d : Document) (query : Text) :
    Call.toViewer (s.answer d query) = [] := by
  cases hq : Query.isSearchable query with
  | false => simp [answer, hq, Call.toViewer]
  | true =>
    simp only [answer, hq, if_true]
    cases s.session.reselect query (Candidate.list d query) <;>
      simp [Call.toViewer]

lemma toPainter_answer {query : Text} (hq : Query.isSearchable query = true) (s : Search)
    (d : Document) :
    Call.toPainter (s.answer d query) = s.palette.repaint (d.scan (Query.parse query)) := by
  simp only [answer, hq, if_true, map_found_list]
  -- the calls in front are to the picker
  cases s.session.reselect query (Candidate.list d query) <;>
    exact Call.toPainter_map_painter _

lemma toPainter_answer_of_not {query : Text} (hq : Query.isSearchable query = false) (s : Search)
    (d : Document) : Call.toPainter (s.answer d query) = [.clear] := by
  simp [answer, hq, Call.toPainter]

/-! ## The steps that are heard -/

/-- A wish to begin a search is heard outside of one. -/
lemma step_of_opens (h : s.phase = .idle) {e : SearchEvent} (he : e.opens = true) :
    s.step w e = { s with session := e.sessionAfter s.session }.begin w := by
  cases e with
  | opened =>
    simp only [step, h]
    rfl
  | openedWith seed =>
    simp only [step, h]
    rfl
  | _ => simp [SearchEvent.opens] at he

lemma step_queryChanged (h : s.phase = .searching saved accepted) (query : Text) :
    s.step w (.queryChanged query) = (s, s.answer w.document query) := by
  simp [step, h]

lemma step_focusChanged_cons (h : s.phase = .searching saved accepted) (c : Candidate)
    (rest : List Candidate) :
    s.step w (.focusChanged (c :: rest)) =
      (s, [.viewer (.revealCentered (.cursor ⟨c.found.line, 0⟩)),
        .viewer (.setSelection (.cursor ⟨c.found.line, 0⟩))]) := by
  simp [step, h]

lemma step_accepted_cons (h : s.phase = .searching saved accepted) {c : Candidate}
    {rest : List Candidate} (hc : w.pickerSelected = c :: rest) :
    s.step w .accepted =
      ({ s with phase := .searching saved true, session := .remember w.pickerValue c },
        [.picker .hide, .viewer (.setSelection c.found.target),
          .viewer (.revealCentered c.found.target)]) := by
  simp [step, h, hc]

lemma step_hidden (h : s.phase = .searching saved accepted) :
    s.step w .hidden = ({ s with phase := .idle },
      .painter .clear :: if accepted then []
        else [.viewer (.setSelection saved.selection), .viewer (.setTopLine saved.topLine)]) := by
  simp [step, h]

/-! ## What is ignored -/

/-- The search does nothing at all when the event happens: it comes in the wrong phase, or it is
about an entry and there is none. -/
def Ignores (s : Search) (w : Surroundings) (e : SearchEvent) : Prop :=
  (s.isSearching = false ∧ e.opens = false) ∨ (s.isSearching = true ∧ e.opens = true) ∨
    e = .focusChanged [] ∨ (e = .accepted ∧ w.pickerSelected = [])

lemma step_of_ignores {e : SearchEvent} (h : s.Ignores w e) : s.step w e = (s, []) := by
  rcases h with ⟨hs, he⟩ | ⟨hs, he⟩ | rfl | ⟨rfl, hw⟩
  · rw [isSearching_eq_false_iff] at hs
    cases e with
    | opened => simp [SearchEvent.opens] at he
    | openedWith seed => simp [SearchEvent.opens] at he
    | _ => simp [step, hs]
  · obtain ⟨saved, accepted, hs⟩ := isSearching_iff.mp hs
    cases e with
    | opened => simp [step, hs]
    | openedWith seed => simp [step, hs]
    | _ => simp [SearchEvent.opens] at he
  · cases hs : s.phase <;> simp [step, hs]
  · cases hs : s.phase <;> simp [step, hs, hw]

/-! ## Phase, session and palette after a step -/

/-- Outside of a search the only thing that counts is a wish to begin one. -/
lemma phase_step_of_idle (h : s.phase = .idle) (w : Surroundings) (e : SearchEvent) :
    (s.step w e).1.phase =
      if e.opens then .searching ⟨w.selection, w.topLine⟩ false else .idle := by
  cases he : e.opens with
  | true =>
    rw [step_of_opens h he]
    rfl
  | false =>
    have hignored : s.Ignores w e := Or.inl ⟨isSearching_eq_false_iff.mpr h, he⟩
    rw [step_of_ignores hignored]
    exact h

/-- The event accepts an entry, if a search goes on. -/
def Accepts (w : Surroundings) (e : SearchEvent) : Prop :=
  e = .accepted ∧ w.pickerSelected ≠ []

instance (w : Surroundings) (e : SearchEvent) : Decidable (Accepts w e) :=
  inferInstanceAs (Decidable (_ ∧ _))

/-- During a search the view that was saved stays the same until the picker is hidden, and that a
match was accepted is not forgotten. -/
lemma phase_step_of_searching (h : s.phase = .searching saved accepted) (w : Surroundings)
    {e : SearchEvent} (he : e ≠ .hidden) :
    (s.step w e).1.phase = .searching saved (accepted || decide (Accepts w e)) := by
  cases e with
  | hidden => exact absurd rfl he
  | accepted =>
    cases hw : w.pickerSelected with
    | nil => simp [step, h, hw, Accepts]
    | cons c rest => simp [step_accepted_cons h hw, Accepts, hw]
  | focusChanged entries => cases entries <;> simp [step, h, Accepts]
  | _ => simp [step, h, Accepts]

/-- The session is replaced when a search for a given text begins and when an entry is accepted,
and at no other time. -/
lemma session_step_eq_or (s : Search) (w : Surroundings) (e : SearchEvent) :
    (s.step w e).1.session = s.session ∨
      (s.phase = .idle ∧ ∃ seed, e = .openedWith seed) ∨
      (s.isSearching = true ∧ Accepts w e) := by
  cases h : s.phase with
  | idle =>
    cases e with
    | openedWith seed => exact Or.inr (Or.inl ⟨rfl, seed, rfl⟩)
    | _ => left; simp [step, h, begin]
  | searching saved accepted =>
    have hs : s.isSearching = true := isSearching_iff.mpr ⟨saved, accepted, h⟩
    cases e with
    | accepted =>
      cases hw : w.pickerSelected with
      | nil => left; simp [step, h, hw]
      | cons c rest => exact Or.inr (Or.inr ⟨hs, rfl, by simp [hw]⟩)
    | focusChanged entries => left; cases entries <;> simp [step, h]
    | _ => left; simp [step, h]

end Search

end LineSearch
