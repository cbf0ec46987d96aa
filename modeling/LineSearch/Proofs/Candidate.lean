/-
# Entries and the lines they stand for

The entry of a line in the list of a query is made from the number and the text of the line and
from the query, and from nothing else (`Candidate.Of`).  So an entry that is remembered is found
again in a new list if and only if its line is still there with the same text, and what is found
then is the entry itself (`Session.reselect_list`).
-/
import LineSearch.Candidate
import LineSearch.Proofs.Scan

namespace LineSearch

namespace Candidate

lemma labelOf_injective (number : Nat) : Function.Injective (labelOf number) := by
  intro line line' h
  exact List.append_cancel_left h

variable [Regex.Engine]

/-- The entry is the one that the query lists for a line with the given text. -/
structure Of (query line : Text) (c : Candidate) : Prop where
  searchable : Query.isSearchable query = true
  label_eq : c.label = labelOf c.found.line line
  description_eq : c.description = query
  spans_eq : Filter.spansOf (Filter.ofPredicates (Query.parse query)).conditions line =
    some c.found.spans

variable {query line line' : Text} {c c' : Candidate} {d : Document}

/-- Two entries of a query for the same line are the same. -/
lemma Of.eq (h : c.Of query line) (h' : c'.Of query line) (hline : c.found.line = c'.found.line) :
    c = c' := by
  obtain ⟨label, description, number, spans⟩ := c
  obtain ⟨label', description', number', spans'⟩ := c'
  obtain rfl : number = number' := hline
  obtain rfl : label = label' := h.label_eq.trans h'.label_eq.symm
  obtain rfl : description = description' := h.description_eq.trans h'.description_eq.symm
  obtain rfl : spans = spans' := Option.some.inj (h.spans_eq.symm.trans h'.spans_eq)
  rfl

/-- The list of a query consists of its entries for the lines of the document. -/
lemma mem_list (hq : Query.isSearchable query = true) :
    c ∈ list d query ↔ c.found.line < d.lineCount ∧ c.Of query (d.line c.found.line) := by
  simp only [list, List.mem_map, Document.mem_scan]
  constructor
  · rintro ⟨m, ⟨hlt, hspans⟩, rfl⟩
    exact ⟨hlt, hq, rfl, rfl, hspans⟩
  · rintro ⟨hlt, hof⟩
    refine ⟨c.found, ⟨hlt, hof.spans_eq⟩, ?_⟩
    rw [ofMatch, ← hof.label_eq, ← hof.description_eq]

/-- In the list of a query the entry with the key of a given one is this very entry. -/
lemma Of.eq_of_key_eq (h : c.Of query line) (hmem : c' ∈ list d query) (hkey : c'.key = c.key) :
    d.line c.found.line = line ∧ c' = c := by
  obtain ⟨hline, -, hlabel⟩ := Key.mk.inj hkey
  obtain ⟨-, hof⟩ := (mem_list h.searchable).mp hmem
  have hsame : d.line c.found.line = line := by
    apply labelOf_injective c.found.line
    rw [← h.label_eq, ← hlabel, hof.label_eq, hline]
  rw [hline, hsame] at hof
  exact ⟨hsame, hof.eq h hline⟩

end Candidate

/-- **What is found again.**  An entry that was listed for a line is found in the list of a document
if and only if the document has the line, with the same text. -/
lemma Session.reselect_list [Regex.Engine] {s : Session} {c : Candidate} {line : Text}
    {d : Document} (hlast : s.lastSelected = some c) (h : c.Of s.lastQuery line) :
    s.reselect s.lastQuery (Candidate.list d s.lastQuery) =
      if c.found.line < d.lineCount ∧ d.line c.found.line = line then some c else none := by
  simp only [reselect, hlast, if_true]
  split
  · -- the entry itself is in the list, and no other has its key
    rename_i hsame
    have hmem : c ∈ Candidate.list d s.lastQuery := by
      rw [Candidate.mem_list h.searchable, hsame.2]
      exact ⟨hsame.1, h⟩
    obtain ⟨found, hfound⟩ : ∃ found,
        (Candidate.list d s.lastQuery).find? (·.key = c.key) = some found := by
      rw [← Option.isSome_iff_exists, List.find?_isSome]
      exact ⟨c, hmem, by simp⟩
    have hkey : found.key = c.key := by simpa using List.find?_some hfound
    obtain ⟨-, rfl⟩ := h.eq_of_key_eq (List.mem_of_find?_eq_some hfound) hkey
    exact hfound
  · -- an entry with its key would show that the line is the same
    rename_i hother
    rw [List.find?_eq_none]
    intro found hmem hkey
    obtain ⟨hsame, rfl⟩ := h.eq_of_key_eq hmem (by simpa using hkey)
    exact hother ⟨((Candidate.mem_list h.searchable).mp hmem).1, hsame⟩

end LineSearch
