/-
# The cursor of the terminal in the picker

The next cluster of the line of input is drawn as many cells behind its beginning as the text before
the cursor takes.  The cursor of the terminal is put there by the number of characters before it
instead, and at the end of the line if there are too many of them.  So it stands where it should
just if characters and cells are equally many, or either are enough to reach the end of the line.
The main result is `cursorPlace_performAll`.
-/
import LineSearch.Picker.Drawing
import LineSearch.Proofs.Picker.Editing
import LineSearch.Proofs.Text.Cells

namespace LineSearch

/-! ## Glyphs one behind the other -/

namespace Screen

variable [Text.Layout]

/-- The number of cells that some glyphs take. -/
def cellCount (glyphs : List Glyph) : Nat := (glyphs.map Glyph.width).sum

/-- Glyphs that fit are all drawn, and then the others behind them. -/
lemma place_append (room : Nat) {used : Nat} {glyphs rest : List Glyph}
    (hfits : used + cellCount glyphs ≤ room) :
    place room used (glyphs ++ rest) =
      place room used glyphs ++ place room (used + cellCount glyphs) rest := by
  induction glyphs generalizing used with
  | nil => simp [place, cellCount]
  | cons g glyphs ih =>
    have hcount : cellCount (g :: glyphs) = g.width + cellCount glyphs := by simp [cellCount]
    rw [hcount] at hfits ⊢
    rw [List.cons_append, place, place]
    by_cases hzero : g.width = 0
    · rw [if_pos (by simp [hzero]), if_pos (by simp [hzero]), ih (by omega), hzero, Nat.zero_add]
    · have hshown : (g.width = 0 || g.width > room) = false := by
        simp [hzero]
        omega
      have hroom : ¬ used + g.width > room := by omega
      rw [hshown, if_neg Bool.false_ne_true, if_neg Bool.false_ne_true, if_neg hroom, if_neg hroom,
        ih (by omega), List.cons_append, Nat.add_assoc]

/-- Behind glyphs that fit, the next one is drawn as many cells further as they take. -/
lemma mem_place_append {room : Nat} {glyphs rest : List Glyph} {g : Glyph} (hwidth : g.width ≠ 0)
    (hfits : cellCount glyphs + g.width ≤ room) :
    (cellCount glyphs, g) ∈ place room 0 (glyphs ++ g :: rest) := by
  have hshown : (g.width = 0 || g.width > room) = false := by
    simp [hwidth]
    omega
  rw [place_append room (by omega), Nat.zero_add, place, hshown, if_neg Bool.false_ne_true,
    if_neg (by omega)]
  exact List.mem_append_right _ List.mem_cons_self

end Screen

namespace Picker

open Screen (Area Glyph place)
open Text (Layout)

section

variable {p : Picker} {d : Draft} {a : Area}

lemma edits_new : ({} : Picker).Edits {} := ⟨rfl, fun i hi => absurd hi (by simp)⟩

lemma Edits.cursorPlace_eq (h : p.Edits d) (hprompt : p.showsPrompt = false) (hwidth : 3 ≤ a.width) :
    p.cursorPlace a = (a.x + 1 + min d.before.length (a.width - 3), a.y + 1) := by
  have hcolumn : p.cursorColumn = d.before.length := by
    rw [cursorColumn, hprompt, if_neg Bool.false_ne_true, h.input_eq, InputLine.column,
      InputLine.split?_ofDraft]
  rw [cursorPlace, hcolumn, Prod.mk.injEq, Area.right]
  exact ⟨by omega, rfl⟩

/-! ## The line of input -/

variable [Layout]

/-- The glyphs of the line of input are the clusters of the value, all in one style. -/
lemma glyphs_inputLine (p : Picker) (t : Theme) : ∃ s : Screen.Style,
    (p.inputLine t).glyphs = (Text.drawnClusters p.value).map fun cluster => ⟨cluster, s⟩ := by
  refine ⟨({} : Screen.Style).patch (if p.showsPrompt then t.prompt else {}), ?_⟩
  simp [inputLine, Screen.Line.glyphs, Screen.Run.glyphs]

lemma cellCount_map (clusters : List Text) (s : Screen.Style) :
    Screen.cellCount (clusters.map fun cluster => ⟨cluster, s⟩) =
      (clusters.map Layout.width).sum := by
  rw [Screen.cellCount, List.map_map]
  rfl

/-- **Where the next cluster is drawn.** -/
lemma exists_place_inputLine (t : Theme) {before cluster : Text} {rest : List Text} {room : Nat}
    (hcut : Text.drawnClusters p.value = Text.drawnClusters before ++ cluster :: rest)
    (hwidth : Layout.width cluster ≠ 0) (hfits : Text.cells before + Layout.width cluster ≤ room) :
    ∃ g, (Text.cells before, g) ∈ place room 0 (p.inputLine t).glyphs ∧ g.symbol = cluster := by
  obtain ⟨s, hglyphs⟩ := p.glyphs_inputLine t
  refine ⟨⟨cluster, s⟩, ?_, rfl⟩
  rw [hglyphs, hcut, List.map_append, List.map_cons, Text.cells,
    ← cellCount_map (Text.drawnClusters before) s]
  exact Screen.mem_place_append hwidth (by rwa [cellCount_map])

/-- **The cursor of the terminal.**  Begin with a new picker and let any actions be performed, until
it does not show the placeholder.  In an area with room for a character the cursor is in the first
row of the border's inside.

* Its column is the number of characters before the cursor, or the last one.
* This is the number of cells that these characters take, or the last one, if and only if the two
  numbers are the same or both go beyond the last column but one.
* So it is if these are laid out character by character.
* If the cursor is not inside a cluster, the next one is drawn that many cells behind the beginning
  of the row, as far as it fits.
* No number on the way needs more than 16 bits, if none does that the area and the number of
  characters are given by. -/
theorem cursorPlace_performAll (actions : List PickerAction) (a : Area)
    (hprompt : (({} : Picker).performAll actions).showsPrompt = false) (hwidth : 3 ≤ a.width)
    (hheight : 3 ≤ a.height) :
    let p := ({} : Picker).performAll actions
    ∃ before after, p.value = before ++ after ∧ p.input.cursor = Text.byteLength before ∧
      p.cursorPlace a = (a.x + 1 + min before.length (a.width - 3), a.y + 1) ∧
      (p.cursorPlace a = (a.x + 1 + min (Text.cells before) (a.width - 3), a.y + 1) ↔
        before.length = Text.cells before ∨
          a.width - 3 ≤ before.length ∧ a.width - 3 ≤ Text.cells before) ∧
      (Text.CellEach before →
        p.cursorPlace a = (a.x + 1 + min (Text.cells before) (a.width - 3), a.y + 1)) ∧
      (∀ (t : Theme) cluster rest,
        Text.drawnClusters p.value = Text.drawnClusters before ++ cluster :: rest →
        Layout.width cluster ≠ 0 → Text.cells before + Layout.width cluster ≤ a.inner.width →
        ∃ column g, (column, g) ∈ place a.inner.width 0 (p.inputLine t).glyphs ∧
          g.symbol = cluster ∧
            (a.inner.x + column, a.inner.y) = (a.x + 1 + Text.cells before, a.y + 1)) ∧
      (a.right < 2 ^ 16 → a.x + 1 + p.value.length < 2 ^ 16 →
        a.x + 1 + p.cursorColumn < 2 ^ 16) := by
  intro p
  have h : p.Edits (({} : Draft).performAll actions) := edits_new.performAll actions
  generalize ({} : Draft).performAll actions = d at h
  have hvalue : p.value = d.before ++ d.after := by
    rw [value, h.input_eq]
    rfl
  have hplace := h.cursorPlace_eq hprompt hwidth
  have hiff : p.cursorPlace a =
      (a.x + 1 + min (Text.cells d.before) (a.width - 3), a.y + 1) ↔
        d.before.length = Text.cells d.before ∨
          a.width - 3 ≤ d.before.length ∧ a.width - 3 ≤ Text.cells d.before := by
    rw [hplace, Prod.mk.injEq]
    omega
  refine ⟨d.before, d.after, hvalue, by rw [h.input_eq]; rfl, hplace, hiff, ?_, ?_, ?_⟩
  · intro heach
    exact hiff.mpr (Or.inl heach.cells_eq.symm)
  · intro t cluster rest hcut hcells hfits
    obtain ⟨g, hmem, hsymbol⟩ := exists_place_inputLine t hcut hcells hfits
    refine ⟨Text.cells d.before, g, hmem, hsymbol, ?_⟩
    simp only [Area.inner, Area.right, Area.bottom, Prod.mk.injEq]
    omega
  · intro hright hlength
    have hcolumn : p.cursorColumn ≤ p.value.length := by
      rw [hvalue, List.length_append, cursorColumn, h.input_eq, InputLine.column,
        InputLine.split?_ofDraft]
      split <;> simp
    omega

end

attribute [local instance] Layout.tables

/-- A letter with an accent stands before the cursor, and takes one cell. -/
theorem cursorPlace_performAll_accent :
    let actions : List PickerAction := [.call (.setValue "añb".toList), .command (.move .left)]
    let p := ({} : Picker).performAll actions
    let a : Area := ⟨5, 2, 20, 6⟩
    p.showsPrompt = false ∧ 3 ≤ a.width ∧ 3 ≤ a.height ∧ a.right < 2 ^ 16 ∧
      a.x + 1 + p.value.length < 2 ^ 16 ∧ p.cursorPlace a = (8, 3) ∧
      ∃ before after, p.value = before ++ after ∧ p.input.cursor = Text.byteLength before ∧
        p.cursorPlace a = (a.x + 1 + min before.length (a.width - 3), a.y + 1) ∧
        p.cursorPlace a = (a.x + 1 + min (Text.cells before) (a.width - 3), a.y + 1) := by
  intro actions p a
  obtain ⟨before, after, hvalue, hcursor, hplace, -, heach, -⟩ :=
    cursorPlace_performAll actions a (by decide) (by decide) (by decide)
  have halone : p.value.all Text.standsAlone = true := by decide
  have hbefore : ∀ c ∈ before, Text.standsAlone c = true := by
    intro c hc
    refine List.all_eq_true.mp halone c ?_
    rw [hvalue]
    exact List.mem_append_left after hc
  exact ⟨by decide, by decide, by decide, by decide, by decide, by decide, before, after, hvalue,
    hcursor, hplace, heach (Text.cellEach_of_forall_standsAlone hbefore)⟩

/-- Behind a character that takes two cells the cursor stands on its second cell. -/
theorem cursorPlace_behind_wide :
    let p := ({} : Picker).performAll [.call (.setValue ['日'])]
    let a : Area := ⟨0, 0, 10, 3⟩
    p.showsPrompt = false ∧ p.value = ['日'] ++ [] ∧ p.input.cursor = Text.byteLength ['日'] ∧
      Text.cells ['日'] = 2 ∧ p.cursorPlace a = (2, 1) ∧
      p.cursorPlace a ≠ (a.x + 1 + min (Text.cells ['日']) (a.width - 3), a.y + 1) := by
  decide +kernel

end Picker

end LineSearch
