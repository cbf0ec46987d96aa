/-
# The program at rest

Whatever the user does, whatever the terminal reports and however often the program is drawn, each
time it comes to rest its parts agree (`AtRest`): no note of the picker is left, the picker is
visible just while a search goes on, its list is that of its query, and what is painted is what the
list tells.  The main result is `atRest_run`.
-/
import LineSearch.App.Drawing
import LineSearch.Proofs.App.Commands
import LineSearch.Proofs.Highlight.Store

namespace LineSearch

namespace App

variable {a b : App} {c : Command}

/-! ## Running the program -/

/-- What can happen to the program. -/
inductive Input where
  | command (c : Command)
  | report (e : TerminalEvent)
  | openSearch
  | openSearchWith (seed : Text)
  | draw (width height : Nat)

variable [Regex.Engine]

/-- The program after something happened to it. -/
def advance (a : App) : Input → App
  | .command c => a.handle c
  | .report e => a.dispatch e
  | .openSearch => a.openSearch
  | .openSearchWith seed => a.openSearchWith seed
  | .draw width height => a.drawn width height

/-- The program after several things happened to it, one after the other. -/
def run (a : App) (inputs : List Input) : App := inputs.foldl advance a

lemma run_cons (a : App) (i : Input) (inputs : List Input) :
    a.run (i :: inputs) = (a.advance i).run inputs := rfl

lemma run_append (a : App) (inputs more : List Input) :
    a.run (inputs ++ more) = (a.run inputs).run more := List.foldl_append

/-- A program that was begun some time ago. -/
def Reachable (a : App) : Prop :=
  ∃ d theme showLineNumbers keymap inputs, a = (new d theme showLineNumbers keymap).run inputs

lemma Reachable.run (h : a.Reachable) (more : List Input) : (a.run more).Reachable := by
  obtain ⟨d, theme, showLineNumbers, keymap, inputs, rfl⟩ := h
  exact ⟨d, theme, showLineNumbers, keymap, inputs ++ more, (run_append _ inputs more).symm⟩

/-- Whatever happens to the program is a turn, unless it is only drawn. -/
lemma turn_or_drawn (h : a.Quiet) (i : Input) :
    (∃ c, Turn a c (a.advance i)) ∨
      ∃ height, a.advance i = { a with viewer := a.viewer.drawn height } := by
  cases i with
  | command c => exact Or.inl ⟨c, turn_handle h c⟩
  | report e =>
    left
    rw [advance, dispatch]
    cases a.commandOf e with
    | some c => exact ⟨c, turn_handle h c⟩
    | none => exact ⟨.escape, .stay _⟩
  | openSearch => exact Or.inl ⟨.search, turn_asked h rfl⟩
  | openSearchWith seed => exact Or.inl ⟨.searchWord, turn_asked h rfl⟩
  | draw width height => exact Or.inr ⟨_, rfl⟩

/-- What holds of a quiet program, and is kept by every turn and by drawing, holds as long as it
runs. -/
lemma run_induction {P : App → Prop} (hquiet : ∀ a, P a → a.Quiet)
    (hturn : ∀ a c b, P a → Turn a c b → P b)
    (hdrawn : ∀ a height, P a → P { a with viewer := a.viewer.drawn height })
    (h : P a) (inputs : List Input) : P (a.run inputs) := by
  induction inputs generalizing a with
  | nil => exact h
  | cons i inputs ih =>
    rw [run_cons]
    apply ih
    rcases turn_or_drawn (hquiet a h) i with ⟨c, hc⟩ | ⟨height, hdraw⟩
    · exact hturn a c _ h hc
    · rw [hdraw]
      exact hdrawn a height h

/-! ## The parts agree -/

/-- The program is quiet, and the picker, the painter and the search show the same. -/
structure AtRest (a : App) : Prop extends Quiet a where
  /-- Every match of the query has an entry in the list. -/
  items_eq : a.picker.visible = true →
    a.picker.items =
      if Query.isSearchable a.picker.value then
        (a.document.scan (Query.parse a.picker.value)).map fun m =>
          { label := Candidate.labelOf m.line (a.document.line m.line)
            description := a.picker.value
            found := m }
      else []
  /-- Every bucket has the ranges that the matches in the list give to it. -/
  ranges_eq : a.picker.visible = true → ∀ bucket < a.theme.palette.length,
    (Highlight.assign (a.picker.items.map Candidate.found) a.theme.palette.length)[bucket]? =
      some (a.highlights.ranges bucket)
  highlights_eq : a.picker.visible = false → a.highlights = {}
  palette_eq : a.search.palette = a.theme.buckets

/-- After an answer the buckets are those of the matches in the list. -/
lemma getElem?_assign_listing (a : App) (query : Text) {bucket : Nat}
    (hb : bucket < a.search.palette.buckets) :
    (Highlight.assign ((Search.listing a.document query).map Candidate.found)
        a.search.palette.buckets)[bucket]? = some ((a.paintings query).ranges bucket) := by
  cases hq : Query.isSearchable query with
  | false =>
    have hlisting : Search.listing a.document query = [] := by simp [Search.listing, hq]
    have hpaintings : a.paintings query = {} := by
      rw [paintings, Search.toPainter_answer_of_not hq]
      rfl
    rw [hlisting, hpaintings]
    simp [Highlight.assign, Highlight.Store.ranges, hb]
  | true =>
    have hlisting : (Search.listing a.document query).map Candidate.found =
        a.document.scan (Query.parse query) := by
      rw [Search.listing, if_pos hq, Search.map_found_list]
    have hlen : bucket < (Highlight.assign (a.document.scan (Query.parse query))
        a.search.palette.buckets).length := by rwa [Highlight.length_assign]
    rw [hlisting, Highlight.Store.ranges, paintings, Search.toPainter_answer hq,
      Highlight.Store.buckets_repaint, List.getD_eq_getElem?_getD, List.getElem?_eq_getElem hlen]
    rfl

lemma atRest_answered {query : Text} (hquiet : (a.answered query).Quiet)
    (hv : a.picker.visible = true) (hvalue : a.picker.value = query)
    (hpalette : a.search.palette = a.theme.buckets) : (a.answered query).AtRest where
  toQuiet := hquiet
  items_eq := by
    intro _
    subst hvalue
    rfl
  ranges_eq := by
    intro _ bucket hb
    have hbuckets : a.search.palette.buckets = a.theme.palette.length := by
      rw [hpalette]
      rfl
    have hlt : bucket < a.search.palette.buckets := by
      rw [hbuckets]
      exact hb
    have hassign := getElem?_assign_listing a query hlt
    rw [hbuckets] at hassign
    exact hassign
  highlights_eq := by
    intro hhidden
    exact absurd (hv.symm.trans hhidden) (by decide)
  palette_eq := hpalette

lemma atRest_of_hidden (hquiet : a.Quiet) (hv : a.picker.visible = false)
    (hhighlights : a.highlights = {}) (hpalette : a.search.palette = a.theme.buckets) :
    a.AtRest where
  toQuiet := hquiet
  items_eq := by simp [hv]
  ranges_eq := by simp [hv]
  highlights_eq := fun _ => hhighlights
  palette_eq := hpalette

lemma Turn.atRest (h : a.AtRest) (hturn : Turn a c b) : b.AtRest := by
  have hquiet : b.Quiet := hturn.quiet h.toQuiet
  cases hturn with
  | stay => exact h
  | quit => exact ⟨hquiet, h.items_eq, h.ranges_eq, h.highlights_eq, h.palette_eq⟩
  | read => exact ⟨hquiet, h.items_eq, h.ranges_eq, h.highlights_eq, h.palette_eq⟩
  | begin _ hv session kept =>
    exact atRest_answered (a := a.opening session) hquiet rfl rfl h.palette_eq
  | retype _ hv input => exact atRest_answered hquiet (by exact hv) rfl (by exact h.palette_eq)
  | caret _ hv input same =>
    refine ⟨hquiet, ?_, h.ranges_eq, h.highlights_eq, h.palette_eq⟩
    intro hv
    have hvalue : { a.picker with input }.value = a.picker.value := same
    simp only [hvalue]
    exact h.items_eq hv
  | focus => exact ⟨hquiet, h.items_eq, h.ranges_eq, h.highlights_eq, h.palette_eq⟩
  | commit => exact atRest_of_hidden hquiet rfl rfl h.palette_eq
  | cancel => exact atRest_of_hidden hquiet rfl rfl h.palette_eq

omit [Regex.Engine] in
lemma Quiet.drawn (h : a.Quiet) (height : Nat) :
    Quiet { a with viewer := a.viewer.drawn height } :=
  ⟨h.events_nil, h.visible_iff, h.not_accepted, h.sound⟩

lemma AtRest.drawn (h : a.AtRest) (height : Nat) :
    AtRest { a with viewer := a.viewer.drawn height } :=
  ⟨h.toQuiet.drawn height, h.items_eq, h.ranges_eq, h.highlights_eq, h.palette_eq⟩

lemma atRest_new (d : Document) (theme : Theme) (showLineNumbers : Bool) (keymap : Keymap) :
    (new d theme showLineNumbers keymap).AtRest := by
  refine atRest_of_hidden (quiet_of_hidden rfl rfl rfl ?_) rfl rfl rfl
  exact ⟨by simp [new], by simp [new], by simp [new]⟩

lemma AtRest.run (h : a.AtRest) (inputs : List Input) : (a.run inputs).AtRest :=
  run_induction (fun _ => AtRest.toQuiet) (fun _ _ _ => Turn.atRest)
    (fun _ height h => h.drawn height) h inputs

/-- What the turns of a program at rest keep, and drawing as well, holds as long as it runs. -/
lemma AtRest.run_induction {P : App → Prop} (hrest : a.AtRest)
    (hturn : ∀ a c b, a.AtRest → P a → Turn a c b → P b)
    (hdrawn : ∀ a height, P a → P { a with viewer := a.viewer.drawn height })
    (h : P a) (inputs : List Input) : P (a.run inputs) := by
  have hboth : (a.run inputs).AtRest ∧ P (a.run inputs) :=
    App.run_induction (P := fun b => b.AtRest ∧ P b) (fun _ h => h.1.toQuiet)
      (fun a c b h ht => ⟨ht.atRest h.1, hturn a c b h.1 h.2 ht⟩)
      (fun a height h => ⟨h.1.drawn height, hdrawn a height h.2⟩) ⟨hrest, h⟩ inputs
  exact hboth.2

lemma Reachable.atRest (h : a.Reachable) : a.AtRest := by
  obtain ⟨d, theme, showLineNumbers, keymap, inputs, rfl⟩ := h
  exact (atRest_new d theme showLineNumbers keymap).run inputs

/-- The document and the theme that the program was begun with stay the same. -/
lemma Turn.setup (hturn : Turn a c b) : b.document = a.document ∧ b.theme = a.theme := by
  cases hturn <;> exact ⟨rfl, rfl⟩

lemma Quiet.setup_run (h : a.Quiet) (inputs : List Input) :
    (a.run inputs).document = a.document ∧ (a.run inputs).theme = a.theme := by
  have hkept : (a.run inputs).Quiet ∧
      (a.run inputs).document = a.document ∧ (a.run inputs).theme = a.theme := by
    refine run_induction (P := fun b => b.Quiet ∧ b.document = a.document ∧ b.theme = a.theme)
      (fun _ h => h.1) ?_ (fun _ height h => ⟨h.1.drawn height, h.2⟩) ⟨h, rfl, rfl⟩ inputs
    rintro b c b' ⟨hquiet, hdocument, htheme⟩ hturn
    obtain ⟨hdocument', htheme'⟩ := hturn.setup
    exact ⟨hturn.quiet hquiet, hdocument'.trans hdocument, htheme'.trans htheme⟩
  exact hkept.2

/-- **The program at rest.**  Let a program be begun with any document and any theme, and let
anything happen to it in any order.  Each time its parts agree, and it still has its document and
its theme. -/
theorem atRest_run (d : Document) (theme : Theme) (showLineNumbers : Bool) (keymap : Keymap)
    (inputs : List Input) :
    let a := (new d theme showLineNumbers keymap).run inputs
    a.AtRest ∧ a.document = d ∧ a.theme = theme := by
  have hnew := atRest_new d theme showLineNumbers keymap
  exact ⟨hnew.run inputs, hnew.toQuiet.setup_run inputs⟩

end App

end LineSearch
