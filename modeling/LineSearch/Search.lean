/-
# The course of a search

A search goes on between three partners: the picker, in which a query is typed and a match is
chosen; the viewer of the document, which shows the match that is looked at; and the painter of the
highlights.  The search hears what happens in the picker and answers with calls to the partners.

When a search begins it notes the selection and the top line of the viewer.  When the picker is
hidden, and no match was accepted, both are set back.

`Search.step` is the whole of it: a function from what happens, and from what the partners show at
that moment, to the new state and the calls.
-/
import LineSearch.Candidate
import LineSearch.Highlight.Buckets
import LineSearch.Position
import LineSearch.Word

namespace LineSearch

/-- The part of a viewer that a search gives back: the selection and the top line. -/
structure SavedView where
  selection : Selection
  topLine : Nat
  deriving DecidableEq, Repr

/-- Whether a search is going on; `accepted` tells whether a match has been accepted in it. -/
inductive Phase where
  | idle
  | searching (saved : SavedView) (accepted : Bool)
  deriving DecidableEq, Repr

/-- The state of a search. -/
structure Search where
  palette : Highlight.Palette
  phase : Phase := .idle
  session : Session := {}

/-- What happens in the course of a search. -/
inductive SearchEvent where
  /-- A search is asked for. -/
  | opened
  /-- A search for a given text is asked for. -/
  | openedWith (seed : Text)
  /-- The query was changed. -/
  | queryChanged (query : Text)
  /-- Other entries of the list are looked at. -/
  | focusChanged (entries : List Candidate)
  /-- The selected entry was accepted. -/
  | accepted
  /-- The picker was hidden. -/
  | hidden
  deriving DecidableEq, Repr

/-- What the partners of a search show. -/
structure Surroundings where
  document : Document
  selection : Selection
  topLine : Nat
  pickerValue : Text
  pickerSelected : List Candidate

/-- A call to the picker. -/
inductive PickerCall where
  | setValue (value : Text)
  | setItems (list : List Candidate)
  | setActive (entries : List Candidate)
  | setSelected (entries : List Candidate)
  | hide
  deriving DecidableEq, Repr

/-- A call to the viewer of the document. -/
inductive ViewerCall where
  | setSelection (s : Selection)
  | revealCentered (s : Selection)
  | setTopLine (line : Nat)
  deriving DecidableEq, Repr

/-- A call to one of the partners. -/
inductive Call where
  | picker (c : PickerCall)
  | viewer (c : ViewerCall)
  | painter (c : Highlight.Paint)
  deriving DecidableEq, Repr

/-- Where the viewer goes when a match is accepted: to the span found last, or to the beginning of
the line if no span was found. -/
def LineMatch.target (m : LineMatch) : Selection :=
  match m.spans.getLast? with
  | none => .cursor ⟨m.line, 0⟩
  | some s => ⟨⟨m.line, s.start⟩, ⟨m.line, s.stop⟩⟩

namespace Search

/-- Whether a search is going on. -/
def isSearching (s : Search) : Bool := s.phase != .idle

variable [Regex.Engine]

/-- The calls that answer a query: the list of its matches is shown and painted, and the remembered
match is looked at if it is among them.  A query that is too short has no list. -/
def answer (s : Search) (d : Document) (query : Text) : List Call :=
  if Query.isSearchable query then
    let list := Candidate.list d query
    let chosen := s.session.reselect query list
    .picker (.setItems list)
      :: (match chosen with
          | some c => [.picker (.setActive [c]), .picker (.setSelected [c])]
          | none => [.picker (.setSelected [])])
      ++ (s.palette.repaint (list.map Candidate.found)).map .painter
  else [.picker (.setItems []), .picker (.setSelected []), .painter .clear]

/-- Begins a search with the query that the session remembers. -/
def begin (s : Search) (w : Surroundings) : Search × List Call :=
  let query := s.session.lastQuery
  ({ s with phase := .searching ⟨w.selection, w.topLine⟩ false },
    .picker (.setItems []) :: .picker (.setValue query) :: s.answer w.document query)

/-- What a search does when something happens.  Outside of a search only the wish to begin one is
heard, and during a search only the rest. -/
def step (s : Search) (w : Surroundings) (e : SearchEvent) : Search × List Call :=
  match s.phase, e with
  | .idle, .opened => s.begin w
  | .idle, .openedWith seed => { s with session := .seeded seed }.begin w
  | .searching _ _, .queryChanged query => (s, s.answer w.document query)
  | .searching _ _, .focusChanged (c :: _) =>
    let place := Selection.cursor ⟨c.found.line, 0⟩
    (s, [.viewer (.revealCentered place), .viewer (.setSelection place)])
  | .searching saved _, .accepted =>
    match w.pickerSelected with
    | [] => (s, [])
    | c :: _ =>
      let place := c.found.target
      ({ s with phase := .searching saved true, session := .remember w.pickerValue c },
        [.picker .hide, .viewer (.setSelection place), .viewer (.revealCentered place)])
  | .searching saved accepted, .hidden =>
    ({ s with phase := .idle },
      .painter .clear
        :: if accepted then []
          else [.viewer (.setSelection saved.selection), .viewer (.setTopLine saved.topLine)])
  | _, _ => (s, [])

end Search

end LineSearch
