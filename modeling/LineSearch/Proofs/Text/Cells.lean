/-
# The cells that a text takes

Where a text is drawn, its clusters are drawn one behind the other, each in the cells that it takes;
together these are the cells of the text.  They are as many as its characters if the text is laid
out character by character (`CellEach.cells_eq`).  By tables texts of most scripts are laid out in
this way (`cellEach_of_forall_standsAlone`), but not all: many characters take two cells, and some
take none.
-/
import LineSearch.Text.Width
import Mathlib.Algebra.Ring.Nat

namespace LineSearch.Text

section

variable [Layout]

/-- The number of cells that a text takes where it is drawn. -/
def cells (t : Text) : Nat := ((drawnClusters t).map Layout.width).sum

/-- Each character of the text is drawn, as a cluster of its own that takes one cell. -/
def CellEach (t : Text) : Prop :=
  drawnClusters t = t.map ([·]) ∧ ∀ c ∈ t, Layout.width [c] = 1

/-- **A cell for each character.** -/
lemma CellEach.cells_eq {t : Text} (h : CellEach t) : cells t = t.length := by
  obtain ⟨hclusters, hwidth⟩ := h
  have hone : (t.map ([·])).map Layout.width = List.replicate t.length 1 := by
    rw [List.map_map, List.eq_replicate_iff]
    refine ⟨List.length_map _, fun n hn => ?_⟩
    obtain ⟨c, hc, rfl⟩ := List.mem_map.mp hn
    exact hwidth c hc
  rw [cells, hclusters, hone, List.sum_replicate_nat, Nat.mul_one]

end

/-! ## The layout by tables -/

/-- Whether a character is a cluster of its own beside others of its kind, and takes one cell. -/
def standsAlone (c : Char) : Bool := breakKind c == .other && charWidth c == 1

lemma standsAlone_iff {c : Char} : standsAlone c = true ↔ breakKind c = .other ∧ charWidth c = 1 := by
  simp [standsAlone]

lemma clusterWidth_singleton (c : Char) : clusterWidth [c] = charWidth c := rfl

/-- Control characters have a kind of their own. -/
lemma not_control_of_breakKind {c : Char} (h : breakKind c = .other) :
    Category.cc.has c = false := by
  by_contra hcontrol
  rw [Bool.not_eq_false] at hcontrol
  have hany : Category.hasAny [.cc, .cf, .zl, .zp] c = true := by
    simp [Category.hasAny, hcontrol]
  have hplain : (0x20 ≤ c.toNat && c.toNat < 0x7F) = false := by
    simp only [Category.has, Category.table, Category.control, RangeTable.contains,
      RangeTable.within, RangeTable.withinAlternate, reduceCtorEq, if_false, Bool.or_false]
      at hcontrol
    grind
  -- every kind that is asked for before the control characters is another one
  simp only [breakKind, hplain, hany, Bool.true_or, Bool.false_eq_true, if_false, if_true] at h
  split_ifs at h

/-- What is remembered of a cluster that no character goes on with by itself. -/
structure Plain (s : ClusterState) : Prop where
  last_eq : s.last = .other
  joinedPicture_eq : s.joinedPicture = false
  linked_eq : s.linked = false

lemma plain_first {c : Char} (h : breakKind c = .other) : Plain (.first c) :=
  ⟨h, rfl, rfl⟩

lemma Plain.not_continues {s : ClusterState} (hs : Plain s) (c : Char) :
    s.continues c .other = false := by
  obtain ⟨last, odd, picture, joined, consonant, linked⟩ := s
  obtain ⟨rfl, rfl, rfl⟩ := hs
  rfl

lemma graphemesFrom_of_forall {t : Text} (h : ∀ c ∈ t, breakKind c = .other) {s : ClusterState}
    (hs : Plain s) (cluster : Text) :
    graphemesFrom s cluster t = cluster.reverse :: t.map fun c => [c] := by
  induction t generalizing s cluster with
  | nil => rfl
  | cons c rest ih =>
    have hc : breakKind c = .other := h c List.mem_cons_self
    have hrest : ∀ d ∈ rest, breakKind d = .other := fun d hd => h d (List.mem_cons_of_mem _ hd)
    rw [graphemesFrom, hc, hs.not_continues, if_neg Bool.false_ne_true, ih hrest (plain_first hc)]
    rfl

lemma graphemes_of_forall {t : Text} (h : ∀ c ∈ t, breakKind c = .other) :
    graphemes t = t.map fun c => [c] := by
  cases t with
  | nil => rfl
  | cons c rest =>
    rw [graphemes, graphemesFrom_of_forall (fun d hd => h d (List.mem_cons_of_mem _ hd))
      (plain_first (h c List.mem_cons_self))]
    rfl

attribute [local instance] Layout.tables

lemma drawnClusters_of_forall {t : Text} (h : ∀ c ∈ t, breakKind c = .other) :
    drawnClusters t = t.map ([·]) := by
  have hclusters : Layout.clusters t = t.map ([·]) := graphemes_of_forall h
  rw [drawnClusters, hclusters, List.filter_eq_self]
  intro cluster hcluster
  obtain ⟨c, hc, rfl⟩ := List.mem_map.mp hcluster
  simp [not_control_of_breakKind (h c hc)]

/-- By tables a text of characters that stand alone is laid out character by character. -/
lemma cellEach_of_forall_standsAlone {t : Text} (h : ∀ c ∈ t, standsAlone c = true) :
    CellEach t :=
  ⟨drawnClusters_of_forall fun c hc => (standsAlone_iff.mp (h c hc)).1,
    fun c hc => (clusterWidth_singleton c).trans (standsAlone_iff.mp (h c hc)).2⟩

end LineSearch.Text
