/-
# Reports: matches as text

The matches of a query in a document, one row for each, either as they would be listed or as JSON
objects.
-/
import LineSearch.Candidate
import LineSearch.Text.Quoted

namespace LineSearch.Report

/-- The form of the rows. -/
inductive Format where
  | plain
  | json
  deriving DecidableEq, Repr

/-- The matches that are reported: none if the query is too short. -/
def matchesOf [Regex.Engine] (d : Document) (query : Text) : List LineMatch :=
  if Query.isSearchable query then d.scan (Query.parse query) else []

/-- A span as a JSON object. -/
def spanJson (s : Span) : Text :=
  "\x7b\"start\":".toList ++ Text.decimal s.start ++ ",\"len\":".toList ++ Text.decimal s.length
    ++ ['}']

/-- A match as a JSON object. -/
def matchJson (text : Text) (m : LineMatch) : Text :=
  "\x7b\"line\":".toList ++ Text.decimal m.line
    ++ ",\"text\":".toList ++ Text.jsonString text
    ++ ",\"segments\":[".toList ++ Text.join [','] (m.spans.map spanJson) ++ "]\x7d".toList

/-- A row without its newline. -/
def row (format : Format) (text : Text) (m : LineMatch) : Text :=
  match format with
  | .plain => Candidate.labelOf m.line text
  | .json => matchJson text m

/-- The rows of a query in a document, each ended by a newline. -/
def render [Regex.Engine] (format : Format) (d : Document) (query : Text) : Text :=
  (matchesOf d query).flatMap fun m => row format (d.line m.line) m ++ ['\n']

end LineSearch.Report
