/-
# Candidates: the entries of the list of matches

A match is listed under its line number and the text of its line, together with the query that
found it.  A session remembers the query and the entry that were accepted last, so that the next
search can begin where the last one ended.
-/
import LineSearch.Filter
import LineSearch.Text.Digit

namespace LineSearch

/-- An entry of the list of matches. -/
structure Candidate where
  /-- What is shown: the line number and the line. -/
  label : Text
  /-- The query that found the match. -/
  description : Text
  found : LineMatch
  deriving DecidableEq, Repr

namespace Candidate

/-- How a line is shown in a list. -/
def labelOf (line : Nat) (text : Text) : Text := Text.decimal line ++ [':', ' '] ++ text

/-- The entry of a match in a line with the given text. -/
def ofMatch (query text : Text) (m : LineMatch) : Candidate :=
  { label := labelOf m.line text, description := query, found := m }

/-- The entries for the matches of a query in a document. -/
def list [Regex.Engine] (d : Document) (query : Text) : List Candidate :=
  (d.scan (Query.parse query)).map fun m => ofMatch query (d.line m.line) m

/-- What two entries share if they stand for the same line found by the same query. -/
structure Key where
  line : Nat
  description : Text
  label : Text
  deriving DecidableEq, Repr

/-- The key of an entry.  The spans play no part in it. -/
def key (c : Candidate) : Key := ⟨c.found.line, c.description, c.label⟩

end Candidate

/-- The query of the last search and the entry that was accepted in it. -/
structure Session where
  lastQuery : Text := Query.placeholder
  lastSelected : Option Candidate := none
  deriving DecidableEq, Repr

namespace Session

/-- A session that begins with a query and remembers no entry. -/
def seeded (query : Text) : Session := { lastQuery := query, lastSelected := none }

/-- The session after an entry was accepted. -/
def remember (query : Text) (c : Candidate) : Session :=
  { lastQuery := query, lastSelected := some c }

/-- The entry of a new list that stands for the remembered one, if the query is the same. -/
def reselect (s : Session) (query : Text) (list : List Candidate) : Option Candidate :=
  match s.lastSelected with
  | none => none
  | some last => if query = s.lastQuery then list.find? (·.key = last.key) else none

end Session

end LineSearch
