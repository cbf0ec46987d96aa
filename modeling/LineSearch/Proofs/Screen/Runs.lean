/-
# Characters grouped into runs

The runs of characters that have a style each are told by three things: they spell out these
characters in these styles, none of them is empty, and neighbours have different styles.  The main
results are

* `groupRuns_eq_iff`: there is exactly one list of runs of which these three things are true, and it is
  the one that `groupRuns` gives;
* `Grouping.flush_pass`: one pass over the characters that collects the run it is in, and puts the
  run away when the style changes and once more at the end, gives the same runs.
-/
import LineSearch.Screen.Line
import Mathlib.Data.List.Chain
import Mathlib.Data.List.Induction
import Mathlib.Tactic.Common

namespace LineSearch.Screen

/-! ## What runs say -/

/-- The characters of runs, each with the style that it is in. -/
def spell (runs : List Run) : List (Char × Style) := runs.flatMap fun r => r.text.map (·, r.style)

/-- No run is empty, and neighbours have different styles. -/
structure Separate (runs : List Run) : Prop where
  ne_nil : ∀ r ∈ runs, r.text ≠ []
  apart : runs.IsChain fun r next => r.style ≠ next.style

lemma spell_append (runs more : List Run) : spell (runs ++ more) = spell runs ++ spell more := by
  simp [spell]

lemma spell_singleton (t : Text) (s : Style) : spell [⟨t, s⟩] = t.map (·, s) := by
  simp [spell]

lemma map_fst_spell (runs : List Run) : (spell runs).map Prod.fst = runs.flatMap Run.text := by
  simp [spell, List.map_flatMap, Function.comp_def]

variable {runs : List Run} {c : Char} {s : Style}

lemma separate_nil : Separate [] := ⟨by simp, .nil⟩

/-- A run may stand before runs if it is not empty and the first of them has another style. -/
lemma separate_cons_iff {r : Run} :
    Separate (r :: runs) ↔
      r.text ≠ [] ∧ (∀ next ∈ runs.head?, r.style ≠ next.style) ∧ Separate runs := by
  constructor
  · rintro ⟨hne, hapart⟩
    obtain ⟨hr, hne⟩ := List.forall_mem_cons.mp hne
    obtain ⟨hfirst, hrest⟩ := List.isChain_cons.mp hapart
    exact ⟨hr, hfirst, hne, hrest⟩
  · rintro ⟨hr, hfirst, hne, hrest⟩
    exact ⟨List.forall_mem_cons.mpr ⟨hr, hne⟩, List.isChain_cons.mpr ⟨hfirst, hrest⟩⟩

/-- A run may stand behind runs if it is not empty and the last of them has another style. -/
lemma separate_concat_iff {r : Run} :
    Separate (runs ++ [r]) ↔
      r.text ≠ [] ∧ (∀ last ∈ runs.getLast?, last.style ≠ r.style) ∧ Separate runs := by
  constructor
  · rintro ⟨hne, hapart⟩
    obtain ⟨hruns, -, hlast⟩ := List.isChain_append.mp hapart
    exact ⟨hne r (by simp), fun last hl => hlast last hl r rfl, fun q hq => hne q (by simp [hq]),
      hruns⟩
  · rintro ⟨hr, hlast, hne, hruns⟩
    refine ⟨fun q hq => ?_, List.isChain_append.mpr ⟨hruns, .singleton r, fun last hl next hn => ?_⟩⟩
    · rcases List.mem_append.mp hq with hq | hq
      · exact hne q hq
      · rwa [List.mem_singleton.mp hq]
    · obtain rfl : r = next := by simpa using hn
      exact hlast last hl

/-! ## Grouping from the end -/

lemma spell_consRun : spell (consRun c s runs) = (c, s) :: spell runs := by
  cases runs with
  | nil => rfl
  | cons r rest =>
    rw [consRun]
    split
    · next h => simp [spell, h]
    · simp [spell]

lemma Separate.consRun (h : Separate runs) : Separate (consRun c s runs) := by
  cases runs with
  | nil => exact separate_cons_iff.mpr ⟨by simp, by simp, h⟩
  | cons r rest =>
    rw [Screen.consRun]
    split
    · next hs =>
      subst hs
      obtain ⟨-, hfirst, hrest⟩ := separate_cons_iff.mp h
      exact separate_cons_iff.mpr ⟨by simp, hfirst, hrest⟩
    · next hs => exact separate_cons_iff.mpr ⟨by simp, by simpa using hs, h⟩

lemma spell_groupRuns (chars : List (Char × Style)) : spell (groupRuns chars) = chars := by
  induction chars with
  | nil => rfl
  | cons e rest ih =>
    show spell (consRun e.1 e.2 (groupRuns rest)) = e :: rest
    rw [spell_consRun, ih]

lemma separate_groupRuns (chars : List (Char × Style)) : Separate (groupRuns chars) := by
  induction chars with
  | nil => exact separate_nil
  | cons e rest ih => exact ih.consRun

/-- Characters of one style before runs of which the first has another one are a run of their own. -/
lemma foldr_consRun {t : Text} (ht : t ≠ []) (hfirst : ∀ next ∈ runs.head?, s ≠ next.style) :
    (t.map (·, s)).foldr (fun (c, s) runs => consRun c s runs) runs = ⟨t, s⟩ :: runs := by
  induction t with
  | nil => exact absurd rfl ht
  | cons c rest ih =>
    rw [List.map_cons, List.foldr_cons]
    by_cases hrest : rest = []
    · subst hrest
      cases runs with
      | nil => rfl
      | cons r more => exact if_neg (hfirst r rfl)
    · rw [ih hrest]
      exact if_pos rfl

lemma groupRuns_spell (h : Separate runs) : groupRuns (spell runs) = runs := by
  induction runs with
  | nil => rfl
  | cons r rest ih =>
    obtain ⟨hr, hfirst, hrest⟩ := separate_cons_iff.mp h
    have hspell : spell (r :: rest) = r.text.map (·, r.style) ++ spell rest := by simp [spell]
    have hgroup := ih hrest
    rw [groupRuns] at hgroup ⊢
    rw [hspell, List.foldr_append, hgroup]
    exact foldr_consRun hr hfirst

/-- **The runs of characters** are the only ones that spell them out and are separate. -/
lemma groupRuns_eq_iff {chars : List (Char × Style)} :
    groupRuns chars = runs ↔ spell runs = chars ∧ Separate runs := by
  constructor
  · rintro rfl
    exact ⟨spell_groupRuns chars, separate_groupRuns chars⟩
  · rintro ⟨rfl, h⟩
    exact groupRuns_spell h

/-! ## Grouping from the beginning -/

/-- How far a pass over characters has come: the runs that are put away, and the characters and the
style of the run that it is in, if it has begun. -/
structure Grouping where
  runs : List Run := []
  buffer : Text := []
  style : Option Style := none

namespace Grouping

/-- All runs, the one that the pass is in among them. -/
def flush (g : Grouping) : List Run :=
  match g.style with
  | some s => g.runs ++ [⟨g.buffer, s⟩]
  | none => g.runs

/-- Goes over a character.  If its style is not that of the run, the run is put away. -/
def add (g : Grouping) (c : Char) (s : Style) : Grouping :=
  if g.style = some s then { g with buffer := g.buffer ++ [c] } else ⟨g.flush, [c], some s⟩

/-- The pass has put nothing away before it has begun, and its runs are separate. -/
structure Sound (g : Grouping) : Prop where
  idle : g.style = none → g.runs = []
  separate : Separate g.flush

variable {g : Grouping}

lemma spell_flush_add (g : Grouping) (c : Char) (s : Style) :
    spell (g.add c s).flush = spell g.flush ++ [(c, s)] := by
  rw [add]
  split
  · next h =>
    simp only [flush, h, spell_append, spell_singleton]
    simp
  · simp only [flush, spell_append, spell_singleton]
    rfl

/-- The run that the pass is in goes on, or another one begins behind it. -/
lemma Sound.add (h : g.Sound) (c : Char) (s : Style) : (g.add c s).Sound := by
  rw [Grouping.add]
  split
  · next hstyle =>
    have hseparate := h.separate
    simp only [flush, hstyle] at hseparate
    obtain ⟨-, hlast, hruns⟩ := separate_concat_iff.mp hseparate
    refine ⟨fun hnone => ?_, ?_⟩
    · cases hstyle.symm.trans hnone
    · simp only [flush, hstyle]
      exact separate_concat_iff.mpr ⟨by simp, hlast, hruns⟩
  · next hstyle =>
    refine ⟨fun hnone => ?_, ?_⟩
    · cases hnone
    show Separate (g.flush ++ [⟨[c], s⟩])
    refine separate_concat_iff.mpr ⟨by simp, fun last hlast => ?_, h.separate⟩
    rw [flush] at hlast
    cases hbegun : g.style with
    | none =>
      simp only [hbegun, h.idle hbegun] at hlast
      cases hlast
    | some before =>
      simp only [hbegun, List.getLast?_concat, Option.mem_some_iff] at hlast
      subst hlast
      rintro rfl
      exact hstyle hbegun

/-- The pass over characters from the first one on. -/
def pass (chars : List (Char × Style)) : Grouping := chars.foldl (fun g (c, s) => g.add c s) {}

lemma pass_concat (chars : List (Char × Style)) (c : Char) (s : Style) :
    pass (chars ++ [(c, s)]) = (pass chars).add c s := by
  simp [pass]

lemma sound_pass (chars : List (Char × Style)) : (pass chars).Sound := by
  induction chars using List.reverseRecOn with
  | nil => exact ⟨fun _ => rfl, separate_nil⟩
  | append_singleton chars e ih =>
    rw [pass_concat]
    exact ih.add e.1 e.2

lemma spell_flush_pass (chars : List (Char × Style)) : spell (pass chars).flush = chars := by
  induction chars using List.reverseRecOn with
  | nil => rfl
  | append_singleton chars e ih => rw [pass_concat, spell_flush_add, ih]

/-- **One pass over the characters** groups them into their runs. -/
lemma flush_pass (chars : List (Char × Style)) : (pass chars).flush = groupRuns chars :=
  (groupRuns_eq_iff.mpr ⟨spell_flush_pass chars, (sound_pass chars).separate⟩).symm

end Grouping

end LineSearch.Screen
