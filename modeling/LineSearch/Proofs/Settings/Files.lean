/-
# Paths and files

A path that leads straight to its end passes only directories that what is there lies in, and so it
leads there.  A path that leads out of a directory again needs that directory as well
(`LeavesDirectories`).  Under this condition it leads to what there is at its end
(`reaches_of_has`).

Writing a file makes the directories on the way first.  If it can be written, the path leads to it
afterwards (`reaches_write`); if not, then it cannot be written the next time either, unless the
path leads to a directory by then (`write_again_or`).
-/
import LineSearch.Settings.Files
import Mathlib.Data.List.Basic

namespace LineSearch

/-! ## Paths -/

namespace Path

lemma enter_of_ne {name : Text} (h : name ≠ up) (dir : Path) : enter dir name = dir ++ [name] := by
  simp [enter, h]

end Path

namespace Files

variable {fs gs : Files} {p q d dir : Path} {ds : List Path} {content : List UInt8}

/-! ## What is there -/

lemma content?_of_not_has (h : fs.has p = false) : fs.content? p = none := by
  rw [has, Bool.or_eq_false_iff] at h
  exact Option.isNone_iff_eq_none.mp (by simpa using h.1)

lemma content?_append_of_some {f : Path × List UInt8} (h : fs.content? p = some content) :
    ((fs.contents ++ [f]).find? (·.1 = p)).map (·.2) = some content := by
  obtain ⟨g, hfind, hg⟩ := Option.map_eq_some_iff.mp h
  rw [List.find?_append, hfind]
  exact congrArg some hg

lemma has_of_isDirectory (h : fs.isDirectory p = true) : fs.has p = true := by
  simp [has, h]

/-- What is in a directory shows that the directory is there. -/
lemma isDirectory_of_has_below (hin : dir <+: q) (hlt : dir.length < q.length)
    (h : fs.has q = true) : fs.isDirectory dir = true := by
  have hbelow : ∀ f ∈ fs.contents, q.isPrefixOf f.1 = true → fs.isDirectory dir = true := by
    intro f hmem hf
    have hqf : q <+: f.1 := List.isPrefixOf_iff_prefix.mp hf
    have hne : f.1 ≠ dir := by
      intro heq
      have := hqf.length_le
      rw [heq] at this
      omega
    have hdir : fs.contents.any (fun f => dir.isPrefixOf f.1 && f.1 != dir) = true :=
      List.any_eq_true.mpr ⟨f, hmem, by simp [hin.trans hqf, hne]⟩
    simp [isDirectory, hdir]
  rw [has, Bool.or_eq_true] at h
  rcases h with hfile | hdirectory
  · obtain ⟨f, hfind⟩ := Option.isSome_iff_exists.mp (Option.isSome_map.symm.trans hfile)
    have hname : f.1 = q := by simpa using List.find?_some hfind
    exact hbelow f (List.mem_of_find?_eq_some hfind) (by simp [hname])
  · rw [isDirectory, Bool.or_eq_true, Bool.or_eq_true] at hdirectory
    rcases hdirectory with (hup | hcontents) | hmade
    · have hdir : dir.all (· = Path.up) = true := by
        obtain ⟨rest, rfl⟩ := hin
        rw [List.all_append, Bool.and_eq_true] at hup
        exact hup.1
      simp only [isDirectory, hdir, Bool.true_or]
    · obtain ⟨f, hmem, hf⟩ := List.any_eq_true.mp hcontents
      rw [Bool.and_eq_true] at hf
      exact hbelow f hmem hf.1
    · obtain ⟨e, hmem, he⟩ := List.any_eq_true.mp hmade
      have hdir : fs.directories.any dir.isPrefixOf = true :=
        List.any_eq_true.mpr ⟨e, hmem, List.isPrefixOf_iff_prefix.mpr
          (hin.trans (List.isPrefixOf_iff_prefix.mp he))⟩
      simp [isDirectory, hdir]

/-! ## Paths that lead out of a directory again -/

/-- Each directory that a path leads out of again is there. -/
def LeavesDirectories (fs : Files) (p : Path) : Prop :=
  ∀ before after, p = before ++ Path.up :: after → fs.isDirectory (Path.target before) = true

lemma leavesDirectories_of_not_mem (fs : Files) (h : Path.up ∉ p) : fs.LeavesDirectories p := by
  rintro before after rfl
  exact absurd (by simp) h

/-- A directory on the way from `dir` is there, or what the path leads to is in it. -/
lemma isDirectory_or_prefix_of_mem_passes
    (hleaves : ∀ before after, p = before ++ Path.up :: after →
      fs.isDirectory (before.foldl Path.enter dir) = true) (hd : d ∈ Path.passes p dir) :
    fs.isDirectory d = true ∨
      d <+: p.foldl Path.enter dir ∧ d.length < (p.foldl Path.enter dir).length := by
  -- backwards: what lies behind a directory shows that it is there
  induction p generalizing dir d with
  | nil => simp [Path.passes] at hd
  | cons name rest ih =>
    have hrest : ∀ d ∈ Path.passes rest (Path.enter dir name), fs.isDirectory d = true ∨
        d <+: rest.foldl Path.enter (Path.enter dir name) ∧
          d.length < (rest.foldl Path.enter (Path.enter dir name)).length :=
      fun d hd => ih (fun before after hp => hleaves (name :: before) after (by simp [hp])) hd
    rcases List.mem_cons.mp hd with rfl | hmem
    · by_cases hname : name = Path.up
      · exact Or.inl (hleaves [] rest (by simp [hname]))
      · rw [Path.enter_of_ne hname] at hrest
        rw [List.foldl_cons, Path.enter_of_ne hname]
        have hin : d <+: d ++ [name] := List.prefix_append d [name]
        have hlt : d.length < (d ++ [name]).length := by simp
        cases rest with
        | nil => exact Or.inr ⟨hin, hlt⟩
        | cons next rest =>
          rcases hrest (d ++ [name]) List.mem_cons_self with hnext | ⟨hnext, hlonger⟩
          · exact Or.inl (isDirectory_of_has_below hin hlt (has_of_isDirectory hnext))
          · exact Or.inr ⟨hin.trans hnext, Nat.lt_trans hlt hlonger⟩
    · exact hrest d hmem

/-- **A path leads to what there is at its end**, if the directories are there that it leads out of
again. -/
lemma reaches_of_has (hleaves : fs.LeavesDirectories p) (hhas : fs.has p.target = true) :
    fs.reaches p = true := by
  have hpasses : ∀ d ∈ Path.passes p [], fs.isDirectory d = true := by
    intro d hd
    rcases isDirectory_or_prefix_of_mem_passes hleaves hd with hthere | ⟨hin, hlt⟩
    · exact hthere
    · exact isDirectory_of_has_below hin hlt hhas
  rw [reaches, hhas, Bool.and_true]
  exact List.all_eq_true.mpr hpasses

/-! ## Making directories -/

lemma makeDirectory?_of_isDirectory (h : fs.isDirectory d = true) :
    fs.makeDirectory? d = some fs := by
  simp [makeDirectory?, h]

lemma isDirectory_add (fs : Files) (d q : Path) :
    isDirectory { fs with directories := fs.directories ++ [d] } q =
      (fs.isDirectory q || q.isPrefixOf d) := by
  simp [isDirectory, Bool.or_assoc]

/-- **What making a directory does**: it is there afterwards, with those it is in, and nothing else
is changed. -/
lemma makeDirectory?_eq_some (h : fs.makeDirectory? d = some gs) :
    gs.contents = fs.contents ∧ ∀ q, gs.isDirectory q = true ↔
      fs.isDirectory q = true ∨ fs.isDirectory d = false ∧ q <+: d := by
  unfold makeDirectory? at h
  split_ifs at h with hthere hfile
  · obtain rfl := Option.some.inj h
    exact ⟨rfl, fun q => by simp [hthere]⟩
  · obtain rfl := Option.some.inj h
    refine ⟨rfl, fun q => ?_⟩
    rw [isDirectory_add, Bool.or_eq_true, List.isPrefixOf_iff_prefix]
    simp [hthere]

lemma contents_makeDirectories (fs : Files) (ds : List Path) :
    (fs.makeDirectories ds).1.contents = fs.contents := by
  induction ds generalizing fs with
  | nil => rfl
  | cons d rest ih =>
    rw [makeDirectories]
    cases hmake : fs.makeDirectory? d with
    | none => rfl
    | some gs => exact (ih gs).trans (makeDirectory?_eq_some hmake).1

lemma content?_makeDirectories (fs : Files) (ds : List Path) (q : Path) :
    (fs.makeDirectories ds).1.content? q = fs.content? q := by
  rw [content?, contents_makeDirectories, content?]

lemma isDirectory_makeDirectories (h : fs.isDirectory q = true) (ds : List Path) :
    (fs.makeDirectories ds).1.isDirectory q = true := by
  induction ds generalizing fs with
  | nil => exact h
  | cons d rest ih =>
    rw [makeDirectories]
    cases hmake : fs.makeDirectory? d with
    | none => exact h
    | some gs => exact ih (((makeDirectory?_eq_some hmake).2 q).mpr (Or.inl h))

/-- Only those directories are made that were missing, with those they are in. -/
lemma isDirectory_or_of_makeDirectories (h : (fs.makeDirectories ds).1.isDirectory q = true) :
    fs.isDirectory q = true ∨ ∃ d ∈ ds, fs.isDirectory d = false ∧ q <+: d := by
  induction ds generalizing fs with
  | nil => exact Or.inl h
  | cons d rest ih =>
    rw [makeDirectories] at h
    cases hmake : fs.makeDirectory? d with
    | none =>
      rw [hmake] at h
      exact Or.inl h
    | some gs =>
      rw [hmake] at h
      have hgs := (makeDirectory?_eq_some hmake).2
      rcases ih h with hthere | ⟨e, he, hmissing, hin⟩
      · rcases (hgs q).mp hthere with hold | ⟨hmissing, hin⟩
        · exact Or.inl hold
        · exact Or.inr ⟨d, List.mem_cons_self, hmissing, hin⟩
      · refine Or.inr ⟨e, List.mem_cons_of_mem d he, ?_, hin⟩
        rw [← Bool.not_eq_true] at hmissing ⊢
        exact fun hold => hmissing ((hgs e).mpr (Or.inl hold))

lemma makeDirectories_of_forall (h : ∀ d ∈ ds, fs.isDirectory d = true) :
    fs.makeDirectories ds = (fs, true) := by
  induction ds with
  | nil => rfl
  | cons d rest ih =>
    rw [makeDirectories, makeDirectory?_of_isDirectory (h d List.mem_cons_self)]
    exact ih fun e he => h e (List.mem_cons_of_mem d he)

lemma isDirectory_of_makeDirectories (h : (fs.makeDirectories ds).2 = true) (hd : d ∈ ds) :
    (fs.makeDirectories ds).1.isDirectory d = true := by
  induction ds generalizing fs with
  | nil => simp at hd
  | cons e rest ih =>
    rw [makeDirectories] at h ⊢
    cases hmake : fs.makeDirectory? e with
    | none => simp [hmake] at h
    | some gs =>
      rw [hmake] at h
      rcases List.mem_cons.mp hd with rfl | hmem
      · refine isDirectory_makeDirectories (((makeDirectory?_eq_some hmake).2 d).mpr ?_) rest
        cases fs.isDirectory d with
        | true => exact Or.inl rfl
        | false => exact Or.inr ⟨rfl, List.prefix_rfl⟩
      · exact ih h hmem

/-- Making the same directories again changes nothing. -/
lemma makeDirectories_makeDirectories (fs : Files) (ds : List Path) :
    (fs.makeDirectories ds).1.makeDirectories ds = fs.makeDirectories ds := by
  induction ds generalizing fs with
  | nil => rfl
  | cons d rest ih =>
    cases hmake : fs.makeDirectory? d with
    | none =>
      have hstop : fs.makeDirectories (d :: rest) = (fs, false) := by
        rw [makeDirectories, hmake]
      rw [hstop, hstop]
    | some gs =>
      have hgo : fs.makeDirectories (d :: rest) = gs.makeDirectories rest := by
        rw [makeDirectories, hmake]
      have hthere : gs.isDirectory d = true := by
        rw [(makeDirectory?_eq_some hmake).2 d]
        cases fs.isDirectory d <;> simp
      rw [hgo, makeDirectories,
        makeDirectory?_of_isDirectory (isDirectory_makeDirectories hthere rest)]
      exact ih gs

/-! ## Writing a file -/

/-- Writing over a file leaves the names of the files as they are. -/
lemma find?_map_overwrite (contents : List (Path × List UInt8)) (p q : Path)
    (content : List UInt8) :
    (contents.map fun f => if f.1 = p then (p, content) else f).find? (·.1 = q) =
      (contents.find? (·.1 = q)).map fun f => if f.1 = p then (p, content) else f := by
  rw [List.find?_map]
  congr 2
  funext f
  simp only [Function.comp_apply]
  split
  · next hname => rw [hname]
  · rfl

lemma contents_put_of_none (h : fs.content? p = none) (content : List UInt8) :
    (fs.put p content).contents = fs.contents ++ [(p, content)] := by
  simp [put, h]

lemma content?_put_of_ne (h : q ≠ p) (content : List UInt8) :
    (fs.put p content).content? q = fs.content? q := by
  unfold put
  split
  · rw [content?, find?_map_overwrite, content?]
    cases hfind : fs.contents.find? (·.1 = q) with
    | none => rfl
    | some f =>
      have hname : f.1 = q := by simpa using List.find?_some hfind
      simp [hname, h]
  · simp [content?, List.find?_append, Ne.symm h]

lemma content?_put_self (fs : Files) (p : Path) (content : List UInt8) :
    (fs.put p content).content? p = some content := by
  unfold put
  split
  · next hsome =>
    obtain ⟨f, hfind⟩ := Option.isSome_iff_exists.mp (Option.isSome_map.symm.trans hsome)
    have hname : f.1 = p := by simpa using List.find?_some hfind
    rw [content?, find?_map_overwrite, hfind]
    simp [hname]
  · next hnone =>
    rw [content?, Option.isSome_map, Option.not_isSome_iff_eq_none] at hnone
    simp [content?, List.find?_append, hnone]

/-- A file that is written over keeps its name. -/
lemma exists_mem_put {f : Path × List UInt8} (hf : f ∈ fs.contents) (p : Path)
    (content : List UInt8) : ∃ g ∈ (fs.put p content).contents, g.1 = f.1 := by
  unfold put
  split
  · refine ⟨_, List.mem_map_of_mem hf, ?_⟩
    split
    · next hname => exact hname.symm
    · rfl
  · exact ⟨f, List.mem_append_left _ hf, rfl⟩

lemma isDirectory_put (h : fs.isDirectory d = true) (p : Path) (content : List UInt8) :
    (fs.put p content).isDirectory d = true := by
  rw [isDirectory, Bool.or_eq_true, Bool.or_eq_true] at h ⊢
  rcases h with (hup | hcontents) | hmade
  · exact Or.inl (Or.inl hup)
  · obtain ⟨f, hmem, hf⟩ := List.any_eq_true.mp hcontents
    obtain ⟨g, hg, hname⟩ := exists_mem_put hmem p content
    exact Or.inl (Or.inr (List.any_eq_true.mpr ⟨g, hg, by simpa only [hname] using hf⟩))
  · exact Or.inr hmade

/-- **What writing does**: the directories on the way are made, and the file is written if they are
all there and no directory is where the file should be. -/
lemma write_eq_or (fs : Files) (p : Path) (content : List UInt8) :
    let made := fs.makeDirectories (p.passes [])
    (fs.write p content = (made.1.put p.target content, true) ∧ made.2 = true ∧
        made.1.isDirectory p.target = false) ∨
      (fs.write p content = (made.1, false) ∧ made.2 = true ∧
        made.1.isDirectory p.target = true) ∨
      (fs.write p content = (made.1, false) ∧ made.2 = false) := by
  intro made
  cases hthrough : made.2 with
  | false => exact Or.inr (Or.inr ⟨by simp [write, made, hthrough], rfl⟩)
  | true =>
    cases hdirectory : made.1.isDirectory p.target with
    | false => exact Or.inl ⟨by simp [write, made, hthrough, hdirectory], rfl, rfl⟩
    | true => exact Or.inr (Or.inl ⟨by simp [write, made, hthrough, hdirectory], rfl, rfl⟩)

lemma content?_write_of_ne (h : q ≠ p.target) (content : List UInt8) :
    (fs.write p content).1.content? q = fs.content? q := by
  rcases fs.write_eq_or p content with ⟨hwrite, -⟩ | ⟨hwrite, -⟩ | ⟨hwrite, -⟩
  · rw [hwrite]
    exact (content?_put_of_ne h content).trans (content?_makeDirectories fs _ q)
  · rw [hwrite, content?_makeDirectories]
  · rw [hwrite, content?_makeDirectories]

lemma contents_write_of_false (h : (fs.write p content).2 = false) :
    (fs.write p content).1.contents = fs.contents := by
  rcases fs.write_eq_or p content with ⟨hwrite, -⟩ | ⟨hwrite, -⟩ | ⟨hwrite, -⟩
  · simp [hwrite] at h
  · rw [hwrite, contents_makeDirectories]
  · rw [hwrite, contents_makeDirectories]

lemma contents_write_of_true (h : (fs.write p content).2 = true) :
    (fs.write p content).1.contents = (fs.put p.target content).contents := by
  rcases fs.write_eq_or p content with ⟨hwrite, -⟩ | ⟨hwrite, -⟩ | ⟨hwrite, -⟩
  · rw [hwrite, put, put, content?_makeDirectories, contents_makeDirectories]
  · simp [hwrite] at h
  · simp [hwrite] at h

lemma content?_write_of_true (h : (fs.write p content).2 = true) :
    (fs.write p content).1.content? p.target = some content := by
  rw [content?, contents_write_of_true h]
  exact content?_put_self fs p.target content

/-- The path leads to what was written. -/
lemma reaches_write (h : (fs.write p content).2 = true) :
    (fs.write p content).1.reaches p = true := by
  have hhas : (fs.write p content).1.has p.target = true := by
    rw [has, content?_write_of_true h]
    rfl
  rcases fs.write_eq_or p content with ⟨hwrite, hthrough, -⟩ | ⟨hwrite, -⟩ | ⟨hwrite, -⟩
  · rw [reaches, hhas, Bool.and_true, hwrite]
    exact List.all_eq_true.mpr fun d hd =>
      isDirectory_put (isDirectory_of_makeDirectories hthrough hd) p.target content
  · simp [hwrite] at h
  · simp [hwrite] at h

/-- What could not be written cannot be written the next time either, unless the path leads to a
directory by then. -/
lemma write_again_or (h : (fs.write p content).2 = false) :
    ((fs.write p content).1.reaches p = true ∧
        (fs.write p content).1.isDirectory p.target = true) ∨
      (fs.write p content).1.reaches p = false ∧
        (fs.write p content).1.write p content = fs.write p content := by
  rcases fs.write_eq_or p content with
    ⟨hwrite, -⟩ | ⟨hwrite, hthrough, hdirectory⟩ | ⟨hwrite, hthrough⟩
  · simp [hwrite] at h
  · refine Or.inl ⟨?_, by rw [hwrite, hdirectory]⟩
    rw [hwrite, reaches, has_of_isDirectory hdirectory, Bool.and_true]
    exact List.all_eq_true.mpr fun d hd => isDirectory_of_makeDirectories hthrough hd
  · have hagain := fs.makeDirectories_makeDirectories (p.passes [])
    refine Or.inr ⟨?_, ?_⟩
    · rw [hwrite, reaches, Bool.and_eq_false_iff]
      refine Or.inl ?_
      by_contra hall
      -- if all directories were there, making them again would succeed
      rw [Bool.not_eq_false, List.all_eq_true] at hall
      rw [makeDirectories_of_forall hall] at hagain
      exact absurd ((congrArg Prod.snd hagain).trans hthrough) (by simp)
    · have hstop : fs.makeDirectories (p.passes []) =
          ((fs.makeDirectories (p.passes [])).1, false) := Prod.ext rfl hthrough
      rw [hwrite, write, hagain, hstop]
      rfl

/-- Where nothing is, no directory is made on the way, if the directories are there that the path
leads out of again. -/
lemma LeavesDirectories.isDirectory_makeDirectories (hleaves : fs.LeavesDirectories p)
    (hhas : fs.has p.target = false) :
    (fs.makeDirectories (p.passes [])).1.isDirectory p.target = false := by
  by_contra hmade
  rw [Bool.not_eq_false] at hmade
  rcases isDirectory_or_of_makeDirectories hmade with hthere | ⟨d, hd, hmissing, hin⟩
  · simp [has_of_isDirectory hthere] at hhas
  · rcases isDirectory_or_prefix_of_mem_passes hleaves hd with hthere | ⟨-, hlt⟩
    · simp [hmissing] at hthere
    · exact absurd hin.length_le (Nat.not_le.mpr hlt)

lemma LeavesDirectories.isDirectory_write (hleaves : fs.LeavesDirectories p)
    (hhas : fs.has p.target = false) (h : (fs.write p content).2 = false) :
    (fs.write p content).1.isDirectory p.target = false := by
  rcases fs.write_eq_or p content with ⟨hwrite, -⟩ | ⟨hwrite, -⟩ | ⟨hwrite, -⟩
  · simp [hwrite] at h
  · rw [hwrite, hleaves.isDirectory_makeDirectories hhas]
  · rw [hwrite, hleaves.isDirectory_makeDirectories hhas]

end Files

end LineSearch
