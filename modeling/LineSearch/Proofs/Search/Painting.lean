/-
# From a query to what is painted

When the query of a search changes, the document is painted anew.  At every place the painted store
then tells which conditions of the query were found there, and nothing else: the conditions that are
not negated have numbers, the styles are used for them in turn, and the lowest style is seen.  The
main result is `bucketAt_queryChanged`.
-/
import LineSearch.Proofs.Highlight.Store
import LineSearch.Proofs.Scan
import LineSearch.Proofs.Search.Step
import LineSearch.Regex.Matching

namespace LineSearch

namespace Query

variable [Regex.Engine]

/-- The line meets every condition of the query. -/
def MetBy (query line : Text) : Prop :=
  ∀ p ∈ parse query, Condition.Meets ⟨Term.compile p, p.negate⟩ line

instance (query line : Text) : Decidable (MetBy query line) :=
  inferInstanceAs (Decidable (∀ p ∈ parse query, _))

/-- The terms of a query that a line has to contain, in the order of the query. -/
def wanted (query : Text) : List Term :=
  ((parse query).filter (!·.negate)).map Term.compile

/-- What the wanted term with the given number finds in the line lies over the column. -/
def FindsAt (query line : Text) (column number : Nat) : Prop :=
  ∃ term span, (wanted query)[number]? = some term ∧ term.firstMatch line = some span ∧
    span.start ≤ column ∧ column < span.start + span.length

/-- The spans that the wanted terms find in a line. -/
def spansIn (query line : Text) : List Span := (wanted query).filterMap (·.firstMatch line)

lemma metBy_iff {query line : Text} :
    MetBy query line ↔
      ∀ c ∈ (Filter.ofPredicates (parse query)).conditions, c.Meets line := by
  simp [MetBy, Filter.ofPredicates]

lemma wanted_eq (query : Text) :
    wanted query =
      ((Filter.ofPredicates (parse query)).conditions.filter (!·.negate)).map Condition.term := by
  simp [wanted, Filter.ofPredicates, List.filter_map, Function.comp_def]

/-- In a line that meets the query, the wanted term with a number has found the span with that
number. -/
lemma getElem?_spansIn {query line : Text} (h : MetBy query line) (i : Nat) :
    (spansIn query line)[i]? = (wanted query)[i]?.bind fun t => t.firstMatch line := by
  have hspans := Filter.getElem?_spans (metBy_iff.mp h) i
  rw [spansIn, wanted_eq, List.filterMap_map, List.getElem?_map, Option.bind_map]
  exact hspans

end Query

lemma Document.mem_scan_parse [Regex.Engine] {d : Document} {query : Text} {m : LineMatch} :
    m ∈ d.scan (Query.parse query) ↔
      m.line < d.lineCount ∧ Query.MetBy query (d.line m.line) ∧
        m.spans = Query.spansIn query (d.line m.line) := by
  rw [mem_scan, Filter.spansOf_eq_some_iff, ← Query.metBy_iff, Query.spansIn, Query.wanted_eq,
    List.filterMap_map]
  rfl

namespace Search

open Highlight (Palette Store Range)

section

variable [Regex.Engine]

/-- The places that a bucket covers after the matches of a query were painted: those where a wanted
term whose turn it is was found, in the lines that meet the query. -/
lemma covered_iff {palette : Palette} {d : Document} {query : Text} (store : Store)
    {line column b : Nat} :
    (∃ r ∈ ((palette.repaint (d.scan (Query.parse query))).foldl Store.paint store).ranges b,
        r.covers line column = true) ↔
      (line < d.lineCount ∧ Query.MetBy query (d.line line)) ∧
        ∃ k, Query.FindsAt query (d.line line) column k ∧ k % palette.buckets = b := by
  simp only [Store.ranges, Store.buckets_repaint, Highlight.mem_getD_assign, Highlight.mem_share,
    Document.mem_scan_parse]
  constructor
  · rintro ⟨r, ⟨m, ⟨hlt, hmet, hspans⟩, -, k, span, hk, -, hb, rfl⟩, hcov⟩
    obtain ⟨rfl, hstart, hstop⟩ := Range.covers_ofSpan_iff.mp hcov
    rw [hspans, Query.getElem?_spansIn hmet, Option.bind_eq_some_iff] at hk
    obtain ⟨term, hterm, hfound⟩ := hk
    exact ⟨⟨hlt, hmet⟩, k, ⟨term, span, hterm, hfound, hstart, hstop⟩, hb⟩
  · rintro ⟨⟨hlt, hmet⟩, k, ⟨term, span, hterm, hfound, hstart, hstop⟩, rfl⟩
    have hpos : 0 < palette.buckets := Nat.lt_of_lt_of_le (by decide) palette.enough
    have hk : (Query.spansIn query (d.line line))[k]? = some span := by
      rw [Query.getElem?_spansIn hmet, hterm]
      exact hfound
    exact ⟨Range.ofSpan line span, ⟨⟨line, _⟩, ⟨hlt, hmet, rfl⟩, Nat.mod_lt k hpos, k, span, hk,
      by omega, rfl, rfl⟩, Range.covers_ofSpan_iff.mpr ⟨rfl, hstart, hstop⟩⟩

variable {s : Search} {w : Surroundings} {saved : SavedView} {accepted : Bool} {query : Text}

/-- **From a query to what is painted.**  Let the query of a search change to one that is long
enough.  Then, whatever was painted before:

* a bucket is seen at a place if and only if the place is in a line of the document that meets the
  query, and the bucket is the least one, counted around, among those of the wanted terms that were
  found over the place;
* nothing is seen there if there is no such line or no such term;
* what is painted depends on nothing that was painted before. -/
theorem bucketAt_queryChanged (h : s.phase = .searching saved accepted)
    (hq : Query.isSearchable query = true) (store : Store) (line column : Nat) :
    let paints := Call.toPainter (s.step w (.queryChanged query)).2
    let painted := paints.foldl Store.paint store
    (∀ b, painted.bucketAt line column = some b ↔
        line < w.document.lineCount ∧ Query.MetBy query (w.document.line line) ∧
          IsLeast {b | ∃ k, Query.FindsAt query (w.document.line line) column k ∧
            k % s.palette.buckets = b} b) ∧
      (painted.bucketAt line column = none ↔
        ¬(line < w.document.lineCount ∧ Query.MetBy query (w.document.line line) ∧
          ∃ k, Query.FindsAt query (w.document.line line) column k)) ∧
      ∀ other : Store, paints.foldl Store.paint other = painted := by
  intro paints painted
  have hpaints : paints = s.palette.repaint (w.document.scan (Query.parse query)) := by
    simp only [paints, step_queryChanged h, toPainter_answer hq]
  have hindexed : painted.Indexed := by
    simp only [painted, hpaints]
    exact Store.indexed_repaint _ _ _
  have hcovered (b : Nat) : (∃ r ∈ painted.ranges b, r.covers line column = true) ↔
      (line < w.document.lineCount ∧ Query.MetBy query (w.document.line line)) ∧
        ∃ k, Query.FindsAt query (w.document.line line) column k ∧
          k % s.palette.buckets = b := by
    simp only [painted, hpaints]
    exact covered_iff store
  refine ⟨fun b => ?_, ?_, fun other => ?_⟩
  · rw [Store.bucketAt_eq_some_iff hindexed]
    simp only [hcovered]
    constructor
    · intro hleast
      obtain ⟨hline, -⟩ := hleast.1
      simp only [hline, true_and] at hleast
      exact ⟨hline.1, hline.2, hleast⟩
    · rintro ⟨hlt, hmet, hleast⟩
      simpa only [hlt, hmet, true_and] using hleast
  · rw [Store.bucketAt_eq_none_iff hindexed]
    simp only [hcovered]
    constructor
    · rintro hnone ⟨hlt, hmet, k, hk⟩
      exact hnone _ ⟨⟨hlt, hmet⟩, k, hk, rfl⟩
    · rintro hnone b ⟨⟨hlt, hmet⟩, k, hk, -⟩
      exact hnone ⟨hlt, hmet, k, hk⟩
  · simp only [painted, hpaints]
    exact Store.foldl_paint_repaint _ _ other store

end

attribute [local instance] Regex.Engine.tables

/-- The second word of a query is seen in the second style, whatever was painted before. -/
theorem bucketAt_queryChanged_second_word :
    let s : Search := { palette := .default, phase := .searching ⟨.cursor .zero, 0⟩ false }
    let query : Text := "two one".toList
    let w : Surroundings := ⟨.ofText "one two one\ntwo".toList, .cursor .zero, 0, query, []⟩
    let before : Store := Store.set {} 0 [⟨0, 0, 9⟩]
    let painted := (Call.toPainter (s.step w (.queryChanged query)).2).foldl Store.paint before
    painted.bucketAt 0 1 = some 1 := by
  intro s query w before painted
  have hs : s.phase = .searching ⟨.cursor .zero, 0⟩ false := rfl
  have hq : Query.isSearchable query = true := by decide
  have hlaw := bucketAt_queryChanged (w := w) hs hq before 0 1
  refine (hlaw.1 1).mpr ⟨by decide, by decide, ?_, ?_⟩
  · exact ⟨1, ⟨.literal "one".toList false 3, ⟨0, 3⟩, rfl, by decide⟩, rfl⟩
  · rintro b ⟨k, ⟨term, span, hterm, hfound, hstart, -⟩, rfl⟩
    match k with
    | 0 =>
      -- the first word is found too far to the right
      have hfirst : (Query.wanted query)[0]? = some (.literal "two".toList false 3) := rfl
      obtain rfl := Option.some.inj (hfirst.symm.trans hterm)
      have hspan : (Term.literal "two".toList false 3).firstMatch (w.document.line 0) =
          some ⟨4, 3⟩ := by decide
      obtain rfl := Option.some.inj (hspan.symm.trans hfound)
      exact absurd hstart (by decide)
    | 1 => decide
    | k + 2 =>
      have hnone : (Query.wanted query)[k + 2]? = none := by
        rw [List.getElem?_eq_none_iff]
        have hlen : (Query.wanted query).length = 2 := by decide
        omega
      rw [hnone] at hterm
      exact absurd hterm (by simp)

end Search

end LineSearch
