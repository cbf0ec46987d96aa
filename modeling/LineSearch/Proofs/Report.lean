/-
# Reports and the list of the picker

A report of a query has a row for each entry that the picker would list for it, in the same order,
and what an entry stands for can be read back from its row.  A plain row is the label of the entry,
so that the number and the text of the line stand before and behind its first colon with a blank,
whatever the text is.  A row in JSON says one thing only, by the grammar of JSON, and this is the
match itself, with its spans and the text of its line.

Rows are found again by cutting the report at its newlines.  A row in JSON never contains one; a
plain row contains none because a line of a text contains none.  The main result is
`render_eq_listed`.
-/
import LineSearch.Proofs.Candidate
import LineSearch.Proofs.Data.Json
import LineSearch.Proofs.Picker.Listing
import LineSearch.Proofs.Text.Finding
import LineSearch.Proofs.Text.Splitting
import LineSearch.Regex.Matching
import LineSearch.Report
import Mathlib.Data.List.Forall2

namespace LineSearch

/-! ## The entries of a report -/

namespace Search

variable [Regex.Engine] {s : Search} {d : Document} {query : Text}

/-- While a search goes on, the picker lists the entries of a query that was typed. -/
lemma items_queryChanged (hs : s.isSearching = true) (w : Surroundings) (p : Picker)
    (query : Text) :
    ((Call.toPicker (s.step w (.queryChanged query)).2).foldl Picker.apply p).items =
      listing w.document query := by
  obtain ⟨saved, accepted, hphase⟩ := isSearching_iff.mp hs
  rw [step_queryChanged hphase, Picker.foldl_apply_answer]
  rfl

lemma map_found_listing (d : Document) (query : Text) :
    (listing d query).map Candidate.found = Report.matchesOf d query := by
  cases hq : Query.isSearchable query with
  | false => simp [listing, Report.matchesOf, hq]
  | true => simp [listing, Report.matchesOf, hq, map_found_list]

lemma label_of_mem_listing {c : Candidate} (h : c ∈ listing d query) :
    c.label = Candidate.labelOf c.found.line (d.line c.found.line) := by
  cases hq : Query.isSearchable query with
  | false => simp [listing, hq] at h
  | true =>
    rw [listing, if_pos hq, Candidate.mem_list hq] at h
    exact h.2.label_eq

end Search

namespace Report

/-- A report has one row for each entry. -/
lemma render_eq_flatMap [Regex.Engine] (format : Format) (d : Document) (query : Text) :
    render format d query =
      ((Search.listing d query).map fun c => row format (d.line c.found.line) c.found).flatMap
        (· ++ ['\n']) := by
  rw [render, ← Search.map_found_listing, List.flatMap_map, List.flatMap_map]

/-! ## Plain rows -/

/-- The number and the text of the line that a plain row stands for: what stands before and behind
the first colon with a blank. -/
def lineOf? (row : Text) : Option (Nat × Text) := do
  let place ← Text.findExact [':', ' '] row
  let number ← Text.number? 10 (row.take place)
  return (number, row.drop (place + 2))

/-- A label is read back, whatever the text of the line is: its number contains no colon. -/
lemma lineOf?_labelOf (number : Nat) (text : Text) :
    lineOf? (Candidate.labelOf number text) = some (number, text) := by
  have hcolon : ':' ∉ Text.decimal number := Text.not_mem_decimal rfl
  have hplace : Text.findExact [':', ' '] (Candidate.labelOf number text) =
      some (Text.decimal number).length := by
    rw [Candidate.labelOf, List.append_assoc]
    exact Text.findExact_of_not_mem hcolon text
  have hbefore : (Candidate.labelOf number text).take (Text.decimal number).length =
      Text.decimal number := by
    rw [Candidate.labelOf, List.append_assoc, List.take_left]
  have hbehind : (Candidate.labelOf number text).drop ((Text.decimal number).length + 2) =
      text := by
    rw [Candidate.labelOf]
    exact List.drop_left' (by simp)
  rw [lineOf?, hplace]
  simp [hbefore, hbehind, Text.number?_decimal]

lemma newline_not_mem_labelOf {text : Text} (h : '\n' ∉ text) (number : Nat) :
    '\n' ∉ Candidate.labelOf number text := by
  have hnumber : '\n' ∉ Text.decimal number := Text.not_mem_decimal rfl
  simp [Candidate.labelOf, hnumber, h]

/-- The report shows the entries: its rows are their labels, and what they stand for is read back
from these. -/
structure Shows (d : Document) (items : List Candidate) (report : Text) : Prop where
  rows_eq : report.splitWhere (· == '\n') = items.map Candidate.label ++ [[]]
  lineOf?_label : ∀ c ∈ items, lineOf? c.label = some (c.found.line, d.line c.found.line)

/-- A plain report of a text shows the entries. -/
lemma shows_render [Regex.Engine] {d : Document} {t : Text} (h : d.lines = Document.linesOf t)
    (query : Text) : Shows d (Search.listing d query) (render .plain d query) where
  rows_eq := by
    have hlabel : (Search.listing d query).map Candidate.label =
        (Search.listing d query).map fun c => row .plain (d.line c.found.line) c.found :=
      List.map_congr_left fun c hc => Search.label_of_mem_listing hc
    rw [render_eq_flatMap, hlabel]
    apply Text.splitWhere_rows rfl
    rintro _ hrow c hc
    obtain ⟨entry, -, rfl⟩ := List.mem_map.mp hrow
    -- a newline in the label would be one in the line
    have hline := Document.newline_not_mem_line h entry.found.line
    simp only [beq_eq_false_iff_ne]
    rintro rfl
    exact newline_not_mem_labelOf hline entry.found.line hc
  lineOf?_label := by
    intro c hc
    rw [Search.label_of_mem_listing hc, lineOf?_labelOf]

/-! ## Rows in JSON -/

open Data.Json

/-- A span as a value. -/
def spanTree (s : Span) : Tree :=
  .table [("start".toList, natural s.start), ("len".toList, natural s.length)]

/-- A match in a line with the given text, as a value. -/
def matchTree (text : Text) (m : LineMatch) : Tree :=
  .table [("line".toList, natural m.line), ("text".toList, .text text),
    ("segments".toList, .list (m.spans.map spanTree))]

lemma begins_spanJson (s : Span) (rest : Text) :
    Begins (spanJson s ++ rest) (spanTree s) rest := by
  have hopen : "\x7b\"start\":".toList = '\x7b' :: (Text.jsonString "start".toList ++ [':']) := by
    decide
  have hnext : ",\"len\":".toList = ',' :: (Text.jsonString "len".toList ++ [':']) := by decide
  have htext : spanJson s ++ rest =
      '\x7b' :: (Text.jsonString "start".toList ++ ':' :: (Text.decimal s.start ++ ',' ::
        (Text.jsonString "len".toList ++ ':' :: (Text.decimal s.length ++ '\x7d' :: rest)))) := by
    -- `unfold`, as the equation of a definition with such texts in it is slow to derive
    unfold spanJson
    simp only [hopen, hnext, List.append_assoc, List.cons_append, List.nil_append]
  have hstart := begins_natural s.start (c := ',') rfl (by decide)
  have hlength := begins_natural s.length (c := '\x7d') rfl (by decide)
  rw [htext]
  refine .table rfl (.cons (beginsEntry (hstart _)) rfl ?_)
  exact .last (beginsEntry (hlength _)) rfl

lemma begins_matchJson (text : Text) (m : LineMatch) (rest : Text) :
    Begins (matchJson text m ++ rest) (matchTree text m) rest := by
  have hopen : "\x7b\"line\":".toList = '\x7b' :: (Text.jsonString "line".toList ++ [':']) := by
    decide
  have htext : ",\"text\":".toList = ',' :: (Text.jsonString "text".toList ++ [':']) := by decide
  have hspans : ",\"segments\":[".toList =
      ',' :: (Text.jsonString "segments".toList ++ [':', '[']) := by decide
  have hclose : "]\x7d".toList = [']', '\x7d'] := by decide
  -- the row as the grammar cuts it: each name with a colon, each value with what follows it
  have hrow : matchJson text m ++ rest =
      '\x7b' :: (Text.jsonString "line".toList ++ ':' :: (Text.decimal m.line ++ ',' ::
        (Text.jsonString "text".toList ++ ':' :: (Text.jsonString text ++ ',' ::
          (Text.jsonString "segments".toList ++ ':' ::
            ('[' :: (Text.join [','] (m.spans.map spanJson) ++ ']' :: '\x7d' :: rest))))))) := by
    unfold matchJson
    simp only [hopen, htext, hspans, hclose, List.append_assoc, List.cons_append, List.nil_append]
  have hline := begins_natural m.line (c := ',') rfl (by decide)
  rw [hrow]
  refine .table rfl (.cons (beginsEntry (hline _)) rfl ?_)
  refine .cons (beginsEntry (begins_text text _)) rfl ?_
  exact .last (beginsEntry (begins_list begins_spanJson m.spans _)) rfl

/-- The value that a name has in a table. -/
def valueAt? (name : Text) : Tree → Option Tree
  | .table es => Data.lookup es name
  | _ => none

/-- The span that a value stands for. -/
def spanOf? (v : Tree) : Option Span := do
  let start ← (valueAt? "start".toList v).bind Tree.natural?
  let length ← (valueAt? "len".toList v).bind Tree.natural?
  return { start, length }

/-- The match that a value stands for, and the text of its line. -/
def matchOf? (v : Tree) : Option (Text × LineMatch) := do
  let line ← (valueAt? "line".toList v).bind Tree.natural?
  let .text text ← valueAt? "text".toList v | none
  let .list items ← valueAt? "segments".toList v | none
  let spans ← items.mapM spanOf?
  return (text, { line, spans })

lemma spanOf?_spanTree (s : Span) : spanOf? (spanTree s) = some s := by
  have hstart : valueAt? "start".toList (spanTree s) = some (natural s.start) := rfl
  have hlength : valueAt? "len".toList (spanTree s) = some (natural s.length) := rfl
  rw [spanOf?, hstart, hlength]
  simp [natural?_natural]

lemma matchOf?_matchTree (text : Text) (m : LineMatch) :
    matchOf? (matchTree text m) = some (text, m) := by
  have hline : valueAt? "line".toList (matchTree text m) = some (natural m.line) := rfl
  have htext : valueAt? "text".toList (matchTree text m) = some (.text text) := rfl
  have hspans : valueAt? "segments".toList (matchTree text m) =
      some (.list (m.spans.map spanTree)) := rfl
  have hall : (m.spans.map spanTree).mapM spanOf? = some m.spans := by
    induction m.spans with
    | nil => rfl
    | cons s rest ih => simp [spanOf?_spanTree, ih]
  rw [matchOf?, hline, htext, hspans]
  simp [natural?_natural, hall]

lemma newline_not_mem_spanJson (s : Span) : '\n' ∉ spanJson s := by
  have hnumber : ∀ n, '\n' ∉ Text.decimal n := fun n => Text.not_mem_decimal rfl
  unfold spanJson
  simp [hnumber]

/-- A row in JSON contains no newline, whatever the text of the line is. -/
lemma newline_not_mem_matchJson (text : Text) (m : LineMatch) : '\n' ∉ matchJson text m := by
  have hnumber : '\n' ∉ Text.decimal m.line := Text.not_mem_decimal rfl
  have htext : '\n' ∉ Text.jsonString text := Text.newline_not_mem_jsonString text
  have hspans : '\n' ∉ Text.join [','] (m.spans.map spanJson) := by
    intro hmem
    rcases Text.mem_join hmem with hcomma | ⟨piece, hpiece, hin⟩
    · simp at hcomma
    · obtain ⟨span, -, rfl⟩ := List.mem_map.mp hpiece
      exact newline_not_mem_spanJson span hin
  unfold matchJson
  simp [hnumber, htext, hspans]

/-- The row says in JSON what the entry stands for, and nothing else. -/
structure Says (d : Document) (row : Text) (c : Candidate) : Prop where
  newline_not_mem : '\n' ∉ row
  denotes_iff : ∃ v, (∀ v', Denotes row v' ↔ v' = v) ∧
    matchOf? v = some (d.line c.found.line, c.found)

lemma says_matchJson (d : Document) (c : Candidate) :
    Says d (matchJson (d.line c.found.line) c.found) c where
  newline_not_mem := newline_not_mem_matchJson _ _
  denotes_iff := by
    have hdenotes : Denotes (matchJson (d.line c.found.line) c.found)
        (matchTree (d.line c.found.line) c.found) := by
      have hbegins := begins_matchJson (d.line c.found.line) c.found []
      rw [List.append_nil] at hbegins
      exact ⟨[], hbegins, rfl⟩
    refine ⟨_, fun v' => ⟨fun h => h.eq hdenotes, ?_⟩, matchOf?_matchTree _ _⟩
    rintro rfl
    exact hdenotes

/-! ## Reports -/

/-- **Reports and the list of the picker agree, and a report is read back.**  While a search goes on
a query is typed, and the picker lists its entries: none if the query is too short.  Then the report
of the query in JSON consists of a row for each entry, in their order, each ended by a newline; no
row contains a newline, and by the grammar of JSON it says the number of the line, its text and the
spans that were found in it.  If the document was cut from a text, then cutting the plain report at
its newlines gives the labels of the entries, and the number and the text of the line stand before
and behind the first colon with a blank. -/
theorem render_eq_listed [Regex.Engine] {s : Search} (hs : s.isSearching = true)
    (w : Surroundings) (p : Picker) (query : Text) :
    let items :=
      ((Call.toPicker (s.step w (.queryChanged query)).2).foldl Picker.apply p).items
    (Query.isSearchable query = false → items = []) ∧
      (∃ rows, render .json w.document query = rows.flatMap (· ++ ['\n']) ∧
        List.Forall₂ (Says w.document) rows items) ∧
      ∀ t, w.document.lines = Document.linesOf t →
        Shows w.document items (render .plain w.document query) := by
  intro items
  have hitems : items = Search.listing w.document query := Search.items_queryChanged hs w p query
  rw [hitems]
  refine ⟨fun hq => by simp [Search.listing, hq], ⟨_, render_eq_flatMap .json _ query, ?_⟩, ?_⟩
  · rw [List.forall₂_map_left_iff, List.forall₂_same]
    intro c _
    exact says_matchJson w.document c
  · intro t ht
    exact shows_render ht query

attribute [local instance] Regex.Engine.tables

/-- Lines that look like rows themselves, and quotation marks and a backslash in them. -/
theorem render_eq_listed_quotes :
    let s : Search := { palette := .default, phase := .searching ⟨.cursor .zero, 0⟩ false }
    let t := "1: say \"ab\"\nno\nab: \\ab".toList
    let d : Document := .ofText t
    let listed (query : Text) :=
      ((Call.toPicker (s.step ⟨d, .cursor .zero, 0, [], []⟩ (.queryChanged query)).2).foldl
        Picker.apply {}).items
    s.isSearching = true ∧ d.lines = Document.linesOf t ∧
      (listed "ab".toList).map Candidate.found = [⟨0, [⟨8, 2⟩]⟩, ⟨2, [⟨0, 2⟩]⟩] ∧
      (∃ rows, render .json d "ab".toList = rows.flatMap (· ++ ['\n']) ∧
        List.Forall₂ (Says d) rows (listed "ab".toList)) ∧
      Shows d (listed "ab".toList) (render .plain d "ab".toList) ∧ listed "a".toList = [] := by
  intro s t d listed
  have hs : s.isSearching = true := rfl
  have hlines : d.lines = Document.linesOf t := rfl
  have hfound : (listed "ab".toList).map Candidate.found = [⟨0, [⟨8, 2⟩]⟩, ⟨2, [⟨0, 2⟩]⟩] := by
    decide
  obtain ⟨-, hjson, hplain⟩ := render_eq_listed hs ⟨d, .cursor .zero, 0, [], []⟩ {} "ab".toList
  obtain ⟨hshort, -, -⟩ := render_eq_listed hs ⟨d, .cursor .zero, 0, [], []⟩ {} "a".toList
  exact ⟨hs, hlines, hfound, hjson, hplain t hlines, hshort (by decide)⟩

end Report

end LineSearch
