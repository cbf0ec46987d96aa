/-
# Reopening a search

A search tells the picker what to list, and hears from it what is typed and accepted; in between
the document may be replaced at any time.  As long as a search goes on, the list is that of the
value of the picker, and what is selected is in the list (`Listed`).  So the entry that is accepted
was listed under the value that is remembered with it, and when a search is opened later on the
entry is found again just if its line is still the same.  The main result is `tell_opened_reselect`.
-/
import LineSearch.Proofs.App.Delivery
import LineSearch.Proofs.Candidate
import LineSearch.Proofs.Search.History
import LineSearch.Regex.Matching
import Mathlib.Logic.Relation

namespace LineSearch

namespace Search

/-- What is listed for a query are its entries for lines of the document. -/
lemma of_of_mem_listing [Regex.Engine] {d : Document} {query : Text} {c : Candidate}
    (h : c ∈ listing d query) : ∃ line, c.Of query line := by
  cases hq : Query.isSearchable query with
  | false => simp [listing, hq] at h
  | true =>
    rw [listing, if_pos hq, Candidate.mem_list hq] at h
    exact ⟨_, h.2⟩

end Search

namespace App

section

variable [Regex.Engine] {a b : App} {saved : SavedView} {accepted : Bool}

/-! ## What goes on around a search -/

/-- What can happen between a search and its partners.  The search hears of an event, and of a
change of the query only if the query is what stands in the picker; the line of input is changed,
which the search hears at once; the picker is used in another way, so that its value and its list
stay and what is selected is in the list; or everything else is replaced. -/
inductive Happens (a : App) : App → Prop
  | hears (e : SearchEvent) (shown : ∀ query, e = .queryChanged query → query = a.picker.value) :
      Happens a (a.tell e)
  | types (input : InputLine) :
      Happens a ({ a with picker := { a.picker with input } }.tell (.queryChanged input.text))
  | uses (p : Picker) (value_eq : p.value = a.picker.value) (items_eq : p.items = a.picker.items)
      (selected_mem : ∀ c ∈ p.selected, c ∈ p.items) : Happens a { a with picker := p }
  | replaces (document : Document) (viewer : Viewer) (highlights : Highlight.Store) :
      Happens a { a with document, viewer, highlights }

/-- What has happened between a search and its partners in some time. -/
abbrev Course : App → App → Prop := Relation.ReflTransGen Happens

lemma search_tell (a : App) (e : SearchEvent) :
    (a.tell e).search = (a.search.step a.surroundings e).1 := by
  rw [tell_eq]

/-! ## The list and the value of the picker -/

/-- While a search goes on, the picker lists entries of its value, and what is selected is among
them. -/
structure Listed (a : App) : Prop where
  of_mem : a.search.isSearching = true → ∀ c ∈ a.picker.items, ∃ line, c.Of a.picker.value line
  selected_mem : a.search.isSearching = true → ∀ c ∈ a.picker.selected, c ∈ a.picker.items

namespace Listed

lemma of_idle (h : a.search.phase = .idle) : a.Listed := by
  have hidle : a.search.isSearching = false := Search.isSearching_eq_false_iff.mpr h
  constructor <;> simp [hidle]

/-- What the picker does beside keeps this. -/
lemma of_eq (h : a.Listed) (hsearching : b.search.isSearching = true → a.search.isSearching = true)
    (hvalue : b.picker.value = a.picker.value) (hitems : b.picker.items = a.picker.items)
    (hselected : ∀ c ∈ b.picker.selected, c ∈ a.picker.selected) : b.Listed where
  of_mem := by
    intro hb
    rw [hitems, hvalue]
    exact h.of_mem (hsearching hb)
  selected_mem := by
    intro hb c hc
    rw [hitems]
    exact h.selected_mem (hsearching hb) c (hselected c hc)

/-- The list that answers the value of the picker. -/
lemma tell_queryChanged (h : a.search.phase = .searching saved accepted) {query : Text}
    (hvalue : a.picker.value = query) : (a.tell (.queryChanged query)).Listed := by
  rw [App.tell_queryChanged h]
  have hchosen := a.search.mem_listing_of_chosen a.document query
  constructor
  · intro _ c hc
    have hsame : (a.listed query).value = query := hvalue
    have hmem : c ∈ Search.listing a.document query := hc
    obtain ⟨line, hof⟩ := Search.of_of_mem_listing hmem
    refine ⟨line, ?_⟩
    rw [← hsame] at hof
    exact hof
  · intro _ c hc
    have hc : c ∈ (a.search.chosen a.document query).toList := hc
    exact hchosen c (by simpa using hc)

/-- Whatever the search hears. -/
lemma tell (h : a.Listed) {e : SearchEvent}
    (shown : ∀ query, e = .queryChanged query → query = a.picker.value) : (a.tell e).Listed := by
  cases hphase : a.search.phase with
  | idle =>
    cases he : e.opens with
    | true =>
      rw [tell_of_opens hphase he]
      exact tell_queryChanged (a := a.awaiting _) rfl rfl
    | false =>
      rw [tell_of_ignores (Or.inl ⟨Search.isSearching_eq_false_iff.mpr hphase, he⟩)]
      exact h
  | searching saved accepted =>
    have hs : a.search.isSearching = true := Search.isSearching_iff.mpr ⟨saved, accepted, hphase⟩
    cases e with
    | opened =>
      rw [tell_of_ignores (Or.inr (Or.inl ⟨hs, rfl⟩))]
      exact h
    | openedWith seed =>
      rw [tell_of_ignores (Or.inr (Or.inl ⟨hs, rfl⟩))]
      exact h
    | queryChanged query => exact tell_queryChanged hphase (shown query rfl).symm
    | focusChanged entries =>
      rw [tell_focusChanged hphase]
      exact ⟨h.of_mem, h.selected_mem⟩
    | accepted =>
      cases hselected : a.picker.selected with
      | nil =>
        rw [tell_accepted_nil hselected]
        exact h
      | cons c rest =>
        -- the picker is hidden, and shows the same apart from that
        rw [tell_accepted_cons hphase hselected]
        have hhide : a.picker.hide.value = a.picker.value ∧
            a.picker.hide.items = a.picker.items ∧
            a.picker.hide.selected = a.picker.selected := by
          unfold Picker.hide
          split <;> exact ⟨rfl, rfl, rfl⟩
        refine h.of_eq (fun _ => hs) hhide.1 hhide.2.1 fun c hc => ?_
        rwa [← hhide.2.2]
    | hidden =>
      rw [tell_hidden hphase]
      exact of_idle rfl

end Listed

lemma Happens.listed (h : a.Listed) (hstep : Happens a b) : b.Listed := by
  cases hstep with
  | hears e shown => exact h.tell shown
  | types input =>
    cases hphase : a.search.phase with
    | idle =>
      have hlisted : Listed { a with picker := { a.picker with input } } := .of_idle hphase
      exact hlisted.tell fun query hquery => (SearchEvent.queryChanged.inj hquery).symm
    | searching saved accepted => exact Listed.tell_queryChanged (by exact hphase) rfl
  | uses p value_eq items_eq selected_mem =>
    refine ⟨fun hs => ?_, fun _ => selected_mem⟩
    have hold := h.of_mem hs
    rwa [← items_eq, ← value_eq] at hold
  | replaces document viewer highlights => exact ⟨h.of_mem, h.selected_mem⟩

lemma Course.listed (h : a.Listed) (hcourse : Course a b) : b.Listed := by
  induction hcourse with
  | refl => exact h
  | tail _ hstep ih => exact hstep.listed ih

/-! ## What is remembered was accepted -/

/-- In the course from `a` to `b` the first selected entry was accepted in `x`, where a search went
on. -/
structure AcceptedIn (a b x : App) (c : Candidate) : Prop where
  before : Course a x
  since : Course (x.tell .accepted) b
  searching : x.search.isSearching = true
  selected : x.picker.selected.head? = some c

/-- What happens either leaves the session as it is, or makes a new one that remembers no entry, or
is the acceptance of an entry. -/
lemma Happens.session_eq_or (hstep : Happens a b) :
    b.search.session = a.search.session ∨ b.search.session.lastSelected = none ∨
      (b = a.tell .accepted ∧ a.search.isSearching = true ∧ ∃ c,
        a.picker.selected.head? = some c ∧
          b.search.session = .remember a.picker.value c) := by
  have htell (e : SearchEvent) (a : App) :
      (a.tell e).search.session = a.search.session ∨
        (a.tell e).search.session.lastSelected = none ∨
        (e = .accepted ∧ a.search.isSearching = true ∧ ∃ c,
          a.picker.selected.head? = some c ∧
            (a.tell e).search.session = .remember a.picker.value c) := by
    rw [search_tell]
    rcases Search.session_step_eq_or a.search a.surroundings e with hsame | ⟨hidle, seed, rfl⟩ | hacc
    · exact Or.inl hsame
    · rw [Search.step_of_opens hidle rfl]
      exact Or.inr (Or.inl rfl)
    · obtain ⟨hs, rfl, hne⟩ := hacc
      obtain ⟨saved, accepted, hphase⟩ := Search.isSearching_iff.mp hs
      obtain ⟨c, rest, hc⟩ := List.exists_cons_of_ne_nil hne
      have hselected : a.picker.selected = c :: rest := hc
      rw [Search.step_accepted_cons hphase hc]
      exact Or.inr (Or.inr ⟨rfl, hs, c, by simp [hselected], rfl⟩)
  cases hstep with
  | hears e shown =>
    rcases htell e a with hsame | hnone | ⟨rfl, hacc⟩
    · exact Or.inl hsame
    · exact Or.inr (Or.inl hnone)
    · exact Or.inr (Or.inr ⟨rfl, hacc⟩)
  | types input =>
    rcases htell (.queryChanged input.text) { a with picker := { a.picker with input } } with
      hsame | hnone | ⟨hacc, -⟩
    · exact Or.inl hsame
    · exact Or.inr (Or.inl hnone)
    · exact absurd hacc (by simp)
  | uses => exact Or.inl rfl
  | replaces => exact Or.inl rfl

/-- An entry that is remembered was accepted some time ago, and the query that is remembered with it
is what stood in the picker then. -/
lemma exists_acceptedIn (hnew : a.search.session.lastSelected = none) (hcourse : Course a b)
    {c : Candidate} (hc : b.search.session.lastSelected = some c) :
    ∃ x, AcceptedIn a b x c ∧ b.search.session.lastQuery = x.picker.value := by
  induction hcourse with
  | refl =>
    rw [hnew] at hc
    exact absurd hc (by simp)
  | @tail y z hay hstep ih =>
    rcases hstep.session_eq_or with hsame | hnone | ⟨hz, hs, c', hselected, hsession⟩
    · rw [hsame] at hc ⊢
      obtain ⟨x, hx, hquery⟩ := ih hc
      exact ⟨x, { hx with since := hx.since.tail hstep }, hquery⟩
    · rw [hnone] at hc
      exact absurd hc (by simp)
    · -- the entry was accepted just now
      rw [hsession] at hc ⊢
      obtain rfl : c' = c := Option.some.inj hc
      subst hz
      exact ⟨y, ⟨hay, .refl, hs, hselected⟩, rfl⟩

/-- What is remembered was listed under the remembered query. -/
lemma AcceptedIn.of {x : App} {c : Candidate} (h : AcceptedIn a b x c) (hlisted : a.Listed) :
    ∃ line, c.Of x.picker.value line := by
  have hx := Course.listed hlisted h.before
  have hmem : c ∈ x.picker.selected := List.mem_of_head? h.selected
  exact hx.of_mem h.searching c (hx.selected_mem h.searching c hmem)

/-! ## Opening a search again -/

/-- What the picker shows when a search was opened: the query that is remembered, and the entry that
is found again. -/
lemma picker_tell_opened (h : a.search.phase = .idle) :
    let query := a.search.session.lastQuery
    let chosen := a.search.chosen a.document query
    (a.tell .opened).picker.value = query ∧
      (a.tell .opened).picker.selected = chosen.toList ∧
      ∀ c, chosen = some c → (a.tell .opened).picker.activeItems = [c] := by
  intro query chosen
  have hanswer : a.tell .opened = (a.awaiting a.search.session).tell (.queryChanged query) :=
    tell_of_opens h rfl
  rw [hanswer, App.tell_queryChanged rfl]
  refine ⟨rfl, rfl, ?_⟩
  intro c hc
  exact activeItems_listed (a := a.awaiting a.search.session) hc

/-- The calls with which a search is opened make an entry active only if one is found again. -/
lemma setActive_mem_step_opened (h : a.search.phase = .idle) {entries : List Candidate}
    (hcall : .picker (.setActive entries) ∈ (a.search.step a.surroundings .opened).2) :
    a.search.chosen a.document a.search.session.lastQuery ≠ none := by
  intro hnone
  have hmem : PickerCall.setActive entries ∈
      Call.toPicker (a.search.step a.surroundings .opened).2 :=
    List.mem_filterMap.mpr ⟨_, hcall, rfl⟩
  have hcalls : Call.toPicker (a.search.step a.surroundings .opened).2 =
      .setItems [] :: .setValue a.search.session.lastQuery ::
        Call.toPicker (a.search.answer a.document a.search.session.lastQuery) := by
    rw [Search.step_of_opens h rfl]
    rfl
  rw [hcalls, Search.toPicker_answer, hnone] at hmem
  simp at hmem

/-- **Reopening a search.**  Let a search and its partners begin anew and let anything happen
between them.  Whenever no search goes on and an entry is remembered, this was accepted some time
ago, and its label is that of its line with some text.  If a search is opened now,

* the value of the picker is what it was when the entry was accepted;
* if the document has the line with this text, the entry alone is active and selected;
* if not, no entry is made active by the search, and none is selected. -/
theorem tell_opened_reselect {palette : Highlight.Palette} (hnew : a.search = .new palette)
    (hcourse : Course a b) (hidle : b.search.phase = .idle) {c : Candidate}
    (hc : b.search.session.lastSelected = some c) :
    let opened := b.tell .opened
    (∃ x, AcceptedIn a b x c ∧ opened.picker.value = x.picker.value) ∧
      ∃ line, c.label = Candidate.labelOf c.found.line line ∧
        (c.found.line < b.document.lineCount ∧ b.document.line c.found.line = line →
          opened.picker.activeItems = [c] ∧ opened.picker.selected = [c]) ∧
        (¬(c.found.line < b.document.lineCount ∧ b.document.line c.found.line = line) →
          opened.picker.selected = [] ∧
            ∀ entries, .picker (.setActive entries) ∉
              (b.search.step b.surroundings .opened).2) := by
  intro opened
  have hfresh : a.Listed := .of_idle (by rw [hnew]; rfl)
  have hforgets : a.search.session.lastSelected = none := by
    rw [hnew]
    rfl
  obtain ⟨x, hx, hquery⟩ := exists_acceptedIn hforgets hcourse hc
  obtain ⟨line, hof⟩ := hx.of hfresh
  rw [← hquery] at hof
  obtain ⟨hvalue, hselected, hactive⟩ := picker_tell_opened hidle
  have hchosen : b.search.chosen b.document b.search.session.lastQuery =
      if c.found.line < b.document.lineCount ∧ b.document.line c.found.line = line then some c
      else none := by
    rw [Search.chosen, if_pos hof.searchable]
    exact Session.reselect_list hc hof
  refine ⟨⟨x, hx, hvalue.trans hquery⟩, line, hof.label_eq, ?_, ?_⟩
  · intro hsame
    rw [if_pos hsame] at hchosen
    refine ⟨hactive c hchosen, ?_⟩
    rw [hselected, hchosen]
    rfl
  · intro hother
    rw [if_neg hother] at hchosen
    refine ⟨?_, fun entries hcall => setActive_mem_step_opened hidle hcall hchosen⟩
    rw [hselected, hchosen]
    rfl

end

attribute [local instance] Regex.Engine.tables

/-- A line is accepted, and after that the lines around it change. -/
theorem tell_opened_reselect_edited :
    let opened := (new (.ofText "one\ntwo".toList) .default true {}).tell .opened
    let typed :=
      { opened with picker := { opened.picker with input := .ofText "two".toList } }.tell
        (.queryChanged "two".toList)
    let chosen := { typed with picker := { typed.picker with selected := typed.picker.activeItems } }
    let closed := (chosen.tell .accepted).tell .hidden
    let edited := { closed with document := .ofText "six\ntwo\none two".toList }
    let c : Candidate := ⟨"1: two".toList, "two".toList, ⟨1, [⟨0, 3⟩]⟩⟩
    (edited.tell .opened).picker.activeItems = [c] ∧ (edited.tell .opened).picker.selected = [c] := by
  intro opened typed chosen closed edited c
  have hopened : Happens (new (.ofText "one\ntwo".toList) .default true {}) opened :=
    .hears .opened (by simp)
  have htyped : Happens opened typed := .types (.ofText "two".toList)
  have hchosen : Happens typed chosen := .uses _ rfl rfl (by decide)
  have haccepted : Happens chosen (chosen.tell .accepted) := .hears .accepted (by simp)
  have hclosed : Happens (chosen.tell .accepted) closed := .hears .hidden (by simp)
  have hedited : Happens closed edited := .replaces _ closed.viewer closed.highlights
  have hcourse : Course (new (.ofText "one\ntwo".toList) .default true {}) edited :=
    .tail (.tail (.tail (.tail (.tail (.single hopened) htyped) hchosen) haccepted) hclosed) hedited
  have hidle : edited.search.phase = .idle := by decide
  have hc : edited.search.session.lastSelected = some c := by decide
  obtain ⟨-, line, hlabel, hsame, -⟩ := tell_opened_reselect rfl hcourse hidle hc
  have hline : "two".toList = line := by
    apply Candidate.labelOf_injective 1
    exact hlabel
  subst hline
  exact hsame (by decide)

end App

end LineSearch
