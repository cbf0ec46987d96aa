/-
# Loading the settings again and again

Loading looks whether the path of the settings file leads anywhere, writes the default settings if
it does not, and reads the file (`load_eq_or`).  What was written is read as the default settings if
the reader makes the same of it as of the text that is built in (`ReadsDefaults`), and a second load
changes nothing (`load_load_snd`).  No file is lost and all loads give the same as long as the
directories are there that the path leads out of again; while one of them is missing, what is at the
end of the path is not seen: a file is written over, and a directory makes the first load fail.  The
main result is `loadTimes_keeps`.
-/
import LineSearch.Data.Format
import LineSearch.Proofs.Settings.Files
import Mathlib

namespace LineSearch.Settings

open Data (Fault Format Reader Value)

/-! ## The default settings -/

/-- The table that the text of the default settings writes. -/
def defaultEntries : List (Text × Value) :=
  let d : Settings := {}
  [("ui".toList, .table
      [("theme".toList, .text d.theme), ("show_line_numbers".toList, .bool d.showLineNumbers)]),
    ("keybindings".toList, .table
      [("search".toList, .text d.keybindings.search),
        ("search_word".toList, .text d.keybindings.searchWord),
        ("quit".toList, .text d.keybindings.quit)])]

lemma ofEntries_defaultEntries : ofEntries defaultEntries = .ok {} := by
  decide +kernel

/-! ## Where the settings file is -/

/-- The settings file is in a directory of its own below the one for settings. -/
lemma target_pathIn (settingsHome home : Option Text) :
    (pathIn settingsHome home).target =
      (directoryIn settingsHome home).target ++ ["swiper".toList, "config.toml".toList] := by
  have hswiper : "swiper".toList ≠ Path.up := by decide
  have hconfig : "config.toml".toList ≠ Path.up := by decide
  rw [pathIn, Path.target, List.foldl_append, List.foldl_cons, List.foldl_cons, List.foldl_nil,
    Path.enter_of_ne hswiper, Path.enter_of_ne hconfig, List.append_assoc]
  rfl

section

variable [Reader]

/-! ## Reading the default settings -/

/-- What the reader makes of the default settings.  It finds the text in a settings file that holds
it, reads the table that it writes, with an empty line before it or without, and laying this table
over itself changes nothing. -/
structure ReadsDefaults : Prop where
  find?_eq : ∀ content?, content? "config.toml".toList = some defaultContent →
    Reader.find? content? "config.toml".toList = some (.toml, defaultText)
  parse?_builtInText : Reader.parse? .toml builtInText = .ok defaultEntries
  parse?_defaultText : Reader.parse? .toml defaultText = .ok defaultEntries
  merge_nil : Reader.merge [] defaultEntries = defaultEntries
  merge_self : Reader.merge defaultEntries defaultEntries = defaultEntries

namespace ReadsDefaults

/-- The text that is built in says the default settings. -/
lemma defaults_eq (h : ReadsDefaults) : defaults = .ok {} := by
  simp only [defaults, ofTexts, List.foldlM_cons, List.foldlM_nil, h.parse?_builtInText, bind,
    Except.bind, pure, Except.pure, h.merge_nil]
  exact ofEntries_defaultEntries

/-- So does the text of a new settings file by itself. -/
lemma parse?_defaultText_bind (h : ReadsDefaults) :
    (Reader.parse? .toml defaultText).bind ofEntries = .ok {} := by
  rw [h.parse?_defaultText]
  exact ofEntries_defaultEntries

/-- Laid over the default settings it is read as these again. -/
lemma loadFrom_eq (h : ReadsDefaults) {fs : Files} {dir : Path}
    (hcontent : fs.content? (dir ++ ["config.toml".toList]) = some defaultContent) :
    loadFrom fs (dir ++ ["config.toml".toList]) = .ok {} := by
  have hfind : find? fs (dir ++ ["config.toml".toList]) = some (.toml, defaultText) := by
    rw [find?, List.getLast?_append_cons, List.dropLast_concat]
    exact h.find?_eq _ hcontent
  simp only [loadFrom, hfind, ofTexts, Option.toList_some, List.foldlM_cons, List.foldlM_nil,
    h.parse?_builtInText, h.parse?_defaultText, bind, Except.bind, pure, Except.pure, h.merge_nil,
    h.merge_self]
  exact ofEntries_defaultEntries

end ReadsDefaults

/-! ## Loading so many times -/

/-- Loads the settings so many times: the results, the first one first, and the files afterwards. -/
def loadTimes (settingsHome home : Option Text) :
    Nat → Files → List (Except LoadFault Settings) × Files
  | 0, fs => ([], fs)
  | n + 1, fs =>
    let (result, fs) := load settingsHome home fs
    let (results, fs) := loadTimes settingsHome home n fs
    (result :: results, fs)

lemma loadTimes_succ_eq (settingsHome home : Option Text) (n : Nat) (fs : Files) :
    loadTimes settingsHome home (n + 1) fs =
      ((load settingsHome home fs).1 ::
          (loadTimes settingsHome home n (load settingsHome home fs).2).1,
        (loadTimes settingsHome home n (load settingsHome home fs).2).2) :=
  rfl

/-! ## A single load -/

variable {settingsHome home : Option Text} {fs : Files}

lemma ReadsDefaults.loadFrom_target (h : ReadsDefaults)
    (hcontent : fs.content? (pathIn settingsHome home).target = some defaultContent) :
    loadFrom fs (pathIn settingsHome home).target = .ok {} := by
  have htarget : (pathIn settingsHome home).target =
      ((directoryIn settingsHome home).target ++ ["swiper".toList]) ++ ["config.toml".toList] := by
    rw [target_pathIn, List.append_assoc]
    rfl
  rw [htarget] at hcontent ⊢
  exact h.loadFrom_eq hcontent

/-- **What loading does**: it reads what the path leads to, or writes a new file and reads that, or
fails. -/
lemma load_eq_or (settingsHome home : Option Text) (fs : Files) :
    let p := pathIn settingsHome home
    (fs.reaches p = true ∧
        load settingsHome home fs = ((loadFrom fs p.target).mapError .unreadable, fs)) ∨
      (fs.reaches p = false ∧ (fs.write p defaultContent).2 = true ∧
        load settingsHome home fs =
          ((loadFrom (fs.write p defaultContent).1 p.target).mapError .unreadable,
            (fs.write p defaultContent).1)) ∨
      (fs.reaches p = false ∧ (fs.write p defaultContent).2 = false ∧
        load settingsHome home fs = (.error .notWritable, (fs.write p defaultContent).1)) := by
  intro p
  cases hreaches : fs.reaches p with
  | true => exact Or.inl ⟨rfl, by simp [load, p, hreaches]⟩
  | false =>
    right
    cases hwritten : (fs.write p defaultContent).2 with
    | true => exact Or.inl ⟨rfl, rfl, by simp [load, p, hreaches, hwritten]⟩
    | false => exact Or.inr ⟨rfl, rfl, by simp [load, p, hreaches, hwritten]⟩

omit [Reader] in
/-- A text that cannot be read is not a file that cannot be written. -/
lemma mapError_unreadable_ne (result : Except Fault Settings) :
    result.mapError .unreadable ≠ .error LoadFault.notWritable := by
  cases result with
  | ok s => simp [Except.mapError]
  | error f => simp [Except.mapError]

lemma content?_load_of_ne {q : Path} (h : q ≠ (pathIn settingsHome home).target) (fs : Files) :
    (load settingsHome home fs).2.content? q = fs.content? q := by
  rcases load_eq_or settingsHome home fs with ⟨-, hload⟩ | ⟨-, -, hload⟩ | ⟨-, -, hload⟩
  · rw [hload]
  · rw [hload, Files.content?_write_of_ne h]
  · rw [hload, Files.content?_write_of_ne h]

/-- The file at the end of the path is written over if the path does not lead there. -/
lemma content?_load_target {content : List UInt8}
    (h : fs.content? (pathIn settingsHome home).target = some content) :
    let p := pathIn settingsHome home
    (load settingsHome home fs).2.content? p.target =
      some (if !fs.reaches p && (fs.write p defaultContent).2 then defaultContent
        else content) := by
  intro p
  rcases load_eq_or settingsHome home fs with ⟨hreaches, hload⟩ | ⟨hreaches, hwritten, hload⟩ |
    ⟨hreaches, hwritten, hload⟩
  · simp [hload, p, hreaches, h]
  · simp only [hload, p, hreaches, hwritten, Bool.not_false, Bool.and_self, if_true]
    exact Files.content?_write_of_true hwritten
  · simp only [hload, p, hwritten, Bool.and_false, Bool.false_eq_true, if_false]
    rw [Files.content?, Files.contents_write_of_false hwritten]
    exact h

/-- Loading changes no file, or writes the settings file, and reads that. -/
lemma contents_load_eq_or (settingsHome home : Option Text) (fs : Files) :
    let p := pathIn settingsHome home
    let after := (load settingsHome home fs).2
    after.contents = fs.contents ∨
      after.contents = (fs.put p.target defaultContent).contents ∧
        after.content? p.target = some defaultContent ∧
        (load settingsHome home fs).1 = (loadFrom after p.target).mapError .unreadable := by
  intro p after
  rcases load_eq_or settingsHome home fs with ⟨-, hload⟩ | ⟨-, hwritten, hload⟩ |
    ⟨-, hwritten, hload⟩
  · exact Or.inl (by simp only [after, hload])
  · refine Or.inr ⟨?_, ?_, ?_⟩
    · simp only [after, hload]
      exact Files.contents_write_of_true hwritten
    · simp only [after, hload]
      exact Files.content?_write_of_true hwritten
    · simp only [after, hload, p]
  · left
    simp only [after, hload]
    exact Files.contents_write_of_false hwritten

/-! ## Loading again -/

/-- What a second load finds: it gives the same, unless a directory is where the file should be and
the path did not lead there, and it changes nothing. -/
lemma load_load_eq_or (settingsHome home : Option Text) (fs : Files) :
    let after := (load settingsHome home fs).2
    load settingsHome home after = load settingsHome home fs ∨
      (fs.reaches (pathIn settingsHome home) = false ∧
        (load settingsHome home fs).1 = .error .notWritable ∧
        after.isDirectory (pathIn settingsHome home).target = true ∧
        (load settingsHome home after).2 = after) := by
  intro after
  rcases load_eq_or settingsHome home fs with ⟨-, hload⟩ | ⟨-, hwritten, hload⟩ |
    ⟨hreaches, hwritten, hload⟩
  · have hsame : after = fs := by simp only [after, hload]
    exact Or.inl (by rw [hsame])
  -- the path leads to what was written
  · have hafter : after = (fs.write (pathIn settingsHome home) defaultContent).1 := by
      simp only [after, hload]
    refine Or.inl ?_
    rw [hload, hafter]
    simp only [load, Files.reaches_write hwritten, if_true]
  · have hafter : after = (fs.write (pathIn settingsHome home) defaultContent).1 := by
      simp only [after, hload]
    rcases Files.write_again_or hwritten with ⟨hthere, hdirectory⟩ | ⟨hagain, hwrite⟩
    · refine Or.inr ⟨hreaches, by rw [hload], by rw [hafter, hdirectory], ?_⟩
      rw [hafter]
      simp only [load, hthere, if_true]
    · refine Or.inl ?_
      rw [hload, hafter]
      simp only [load, hagain, hwrite, hwritten, Bool.false_eq_true, if_false]

/-- **A second load changes nothing.** -/
lemma load_load_snd (settingsHome home : Option Text) (fs : Files) :
    (load settingsHome home (load settingsHome home fs).2).2 = (load settingsHome home fs).2 := by
  rcases load_load_eq_or settingsHome home fs with hsame | ⟨-, -, -, hsame⟩
  · rw [hsame]
  · exact hsame

/-- If one load changes nothing, then neither do any more. -/
lemma loadTimes_of_load {result : Except LoadFault Settings}
    (h : load settingsHome home fs = (result, fs)) (n : Nat) :
    loadTimes settingsHome home n fs = (List.replicate n result, fs) := by
  induction n with
  | zero => rfl
  | succ n ih => rw [loadTimes_succ_eq, h, ih, List.replicate_succ]

/-- All loads but the first give the same and change nothing. -/
lemma loadTimes_succ (settingsHome home : Option Text) (n : Nat) (fs : Files) :
    let after := (load settingsHome home fs).2
    loadTimes settingsHome home (n + 1) fs =
      ((load settingsHome home fs).1 :: List.replicate n (load settingsHome home after).1,
        after) := by
  intro after
  have hagain : load settingsHome home after = ((load settingsHome home after).1, after) :=
    Prod.ext rfl (load_load_snd settingsHome home fs)
  rw [loadTimes_succ_eq, loadTimes_of_load hagain]

/-! ## Paths that leave no missing directory -/

/-- The settings file is written only where nothing was. -/
lemma contents_load_of_leavesDirectories
    (hleaves : fs.LeavesDirectories (pathIn settingsHome home)) :
    let p := pathIn settingsHome home
    (load settingsHome home fs).2.contents = fs.contents ∨ fs.has p.target = false ∧
      (load settingsHome home fs).2.contents = fs.contents ++ [(p.target, defaultContent)] := by
  intro p
  cases hhas : fs.has p.target with
  | true =>
    have hreaches := Files.reaches_of_has hleaves hhas
    exact Or.inl (by simp only [load, hreaches, if_true])
  | false =>
    rcases contents_load_eq_or settingsHome home fs with hsame | ⟨hwritten, -, -⟩
    · exact Or.inl hsame
    · refine Or.inr ⟨rfl, hwritten.trans ?_⟩
      exact Files.contents_put_of_none (Files.content?_of_not_has hhas) defaultContent

/-- All loads give the same. -/
lemma load_load_of_leavesDirectories
    (hleaves : fs.LeavesDirectories (pathIn settingsHome home)) :
    load settingsHome home (load settingsHome home fs).2 = load settingsHome home fs := by
  rcases load_load_eq_or settingsHome home fs with hsame | ⟨hreaches, hfailed, hdirectory, -⟩
  · exact hsame
  -- there is nothing at the end of the path, and so no directory is made there
  · have hhas : fs.has (pathIn settingsHome home).target = false := by
      by_contra hhas
      have hthere := Files.reaches_of_has hleaves (by simpa using hhas)
      simp [hreaches] at hthere
    rcases load_eq_or settingsHome home fs with ⟨hthere, -⟩ | ⟨-, -, hload⟩ |
      ⟨-, hwritten, hload⟩
    · simp [hreaches] at hthere
    · exact absurd (hload ▸ hfailed) (mapError_unreadable_ne _)
    · rw [hload, hleaves.isDirectory_write hhas hwritten] at hdirectory
      exact absurd hdirectory Bool.false_ne_true

/-- **What loading the settings keeps.**  Load the settings once or more.

* The settings file is the file `swiper/config.toml` in the directory for settings.
* If the reader reads the text of the default settings, these are what the text says that is built
  in, and what the text of a new settings file says.
* All loads but the first give the same, and only the first one changes anything.
* The first one gives the same as well, unless it fails because a directory is where the settings
  file should be, and the path did not lead there before.
* All files but the settings file stay as they are.
* Either no file is changed, or the settings file is written with the default settings, and all
  loads give the same: the default settings, if the reader reads their text.
* If the settings file is there already, it is written over just if its path does not lead to it,
  and can be made to.
* If the directories are there that the path leads out of again, then all loads give the same, all
  files stay as they are, and the settings file is written only where nothing was.
* These directories are there in particular if the path leads out of none. -/
theorem loadTimes_keeps (settingsHome home : Option Text) (fs : Files) (n : Nat) :
    let p := pathIn settingsHome home
    let first := (load settingsHome home fs).1
    let results := (loadTimes settingsHome home (n + 1) fs).1
    let after := (loadTimes settingsHome home (n + 1) fs).2
    p.target =
        (directoryIn settingsHome home).target ++ ["swiper".toList, "config.toml".toList] ∧
      (ReadsDefaults → defaults = .ok {} ∧
        (Reader.parse? .toml defaultText).bind ofEntries = .ok {}) ∧
      (results = first :: List.replicate n (load settingsHome home after).1 ∧
        after = (load settingsHome home fs).2) ∧
      ((load settingsHome home after).1 = first ∨
        fs.reaches p = false ∧ first = .error .notWritable ∧ after.isDirectory p.target = true) ∧
      (∀ q ≠ p.target, after.content? q = fs.content? q) ∧
      (after.contents = fs.contents ∨
        after.contents = (fs.put p.target defaultContent).contents ∧ (∀ r ∈ results, r = first) ∧
          (ReadsDefaults → ∀ r ∈ results, r = .ok {})) ∧
      (∀ content, fs.content? p.target = some content → after.content? p.target =
        some (if !fs.reaches p && (fs.write p defaultContent).2 then defaultContent
          else content)) ∧
      (fs.LeavesDirectories p → results = List.replicate (n + 1) first ∧
        (∀ q content, fs.content? q = some content → after.content? q = some content) ∧
          (after.contents = fs.contents ∨ fs.has p.target = false ∧
            after.contents = fs.contents ++ [(p.target, defaultContent)])) ∧
      (Path.up ∉ p → fs.LeavesDirectories p) := by
  intro p first results after
  have htimes := loadTimes_succ settingsHome home n fs
  have hafter : after = (load settingsHome home fs).2 := congrArg Prod.snd htimes
  have hresults : results = first :: List.replicate n (load settingsHome home after).1 := by
    rw [hafter]
    exact congrArg Prod.fst htimes
  refine ⟨target_pathIn settingsHome home, fun hreads => ?_, ⟨hresults, hafter⟩, ?_, ?_, ?_, ?_,
    ?_, Files.leavesDirectories_of_not_mem fs⟩
  · exact ⟨hreads.defaults_eq, hreads.parse?_defaultText_bind⟩
  · rw [hafter]
    rcases load_load_eq_or settingsHome home fs with hsame | ⟨hreaches, hfailed, hdirectory, -⟩
    · exact Or.inl (congrArg Prod.fst hsame)
    · exact Or.inr ⟨hreaches, hfailed, hdirectory⟩
  · intro q hq
    rw [hafter, content?_load_of_ne hq]
  · rw [hafter] at hresults ⊢
    rcases contents_load_eq_or settingsHome home fs with hsame | ⟨hwritten, hcontent, hfirst⟩
    · exact Or.inl hsame
    · -- what was written could be written, so that the next load gives the same
      have hsecond : (load settingsHome home (load settingsHome home fs).2).1 = first := by
        rcases load_load_eq_or settingsHome home fs with hsame | ⟨-, hfailed, -⟩
        · exact congrArg Prod.fst hsame
        · exact absurd (hfirst.symm.trans hfailed) (mapError_unreadable_ne _)
      have hall : ∀ r ∈ results, r = first := by
        rw [hresults, hsecond, ← List.replicate_succ]
        exact fun r hr => List.eq_of_mem_replicate hr
      refine Or.inr ⟨hwritten, hall, fun hreads r hr => (hall r hr).trans ?_⟩
      exact hfirst.trans (congrArg (Except.mapError _) (hreads.loadFrom_target hcontent))
  · intro content hcontent
    rw [hafter, content?_load_target hcontent]
  · intro hleaves
    rw [hafter] at hresults ⊢
    rw [load_load_of_leavesDirectories hleaves] at hresults
    have hcontents := contents_load_of_leavesDirectories hleaves
    refine ⟨hresults, fun q content hcontent => ?_, hcontents⟩
    rcases hcontents with hsame | ⟨-, hadded⟩
    · rwa [Files.content?, hsame]
    · rw [Files.content?, hadded]
      exact Files.content?_append_of_some hcontent

end

/-! ## The reader of the three notations -/

attribute [local instance] Reader.notations

/-- It reads the default settings. -/
lemma readsDefaults_notations : ReadsDefaults where
  find?_eq content? hcontent := by
    have htext : Format.textOf defaultContent = defaultText := by decide +kernel
    have hname : Format.ofName? "config.toml".toList = some .toml := by decide +kernel
    change Format.find? content? _ = _
    rw [Format.find?, hcontent, ← htext]
    simp only [hname, Option.map_some]
  parse?_builtInText := by cbv
  parse?_defaultText := by cbv
  merge_nil := by cbv
  merge_self := by cbv

/-- Where there are no files, three loads give the default settings, and write them once. -/
theorem loadTimes_home :
    let fs : Files := { contents := [] }
    let p := pathIn none (some "home".toList)
    let place : Path :=
      ["home".toList, ".config".toList, "swiper".toList, "config.toml".toList]
    let loaded := loadTimes none (some "home".toList) 3 fs
    ReadsDefaults ∧ Path.up ∉ p ∧ fs.content? place = none ∧
      loaded.1 = [.ok {}, .ok {}, .ok {}] ∧ loaded.2.contents = [(place, defaultContent)] := by
  intro fs p place loaded
  obtain ⟨-, -, ⟨-, hafter⟩, -, -, hwritten, -, hleaves, hstays⟩ :=
    loadTimes_keeps none (some "home".toList) fs 2
  have htarget : p.target = place := by decide +kernel
  have hup : Path.up ∉ p := by decide +kernel
  have hnone : fs.content? place = none := by decide +kernel
  have hone : (load none (some "home".toList) fs).2.contents.length = 1 := by decide +kernel
  obtain ⟨hresults, -, -⟩ := hleaves (hstays hup)
  rcases hwritten with hsame | ⟨hcontents, -, hdefaults⟩
  · rw [hafter] at hsame
    rw [hsame] at hone
    exact absurd hone (by decide)
  · have hfirst : (load none (some "home".toList) fs).1 = .ok {} :=
      hdefaults readsDefaults_notations _ (by rw [hresults]; exact List.mem_cons_self)
    rw [hfirst] at hresults
    have hloaded : loaded.2.contents = [(place, defaultContent)] := by
      rw [← htarget]
      exact hcontents
    exact ⟨readsDefaults_notations, hup, hnone, hresults, hloaded⟩

/-- If there is a directory at the end of a path that leads through a missing one, only the first
load fails. -/
example :
    let fs : Files := { contents := [(["swiper".toList, "config.toml".toList, ['x']], [])] }
    (loadTimes (some "a/..".toList) none 2 fs).1 = [.error .notWritable, .ok {}] := by
  decide +kernel

/-- A settings file is written over if its path leads through a missing directory. -/
theorem load_overwrites :
    let place : Path := ["swiper".toList, "config.toml".toList]
    let old := "[ui]\nshow_line_numbers = false\n".toUTF8.toList
    let fs : Files := { contents := [(place, old)] }
    let after := (load (some "a/..".toList) none fs).2
    (pathIn (some "a/..".toList) none).target = place ∧ fs.content? place = some old ∧
      after.content? place = some defaultContent ∧ defaultContent ≠ old := by
  intro place old fs after
  have htarget : (pathIn (some "a/..".toList) none).target = place := by decide +kernel
  have hold : fs.content? place = some old := by simp [fs, Files.content?]
  have hlost : (!fs.reaches (pathIn (some "a/..".toList) none) &&
      (fs.write (pathIn (some "a/..".toList) none) defaultContent).2) = true := by
    decide +kernel
  have hafter := content?_load_target (by rwa [htarget] : fs.content? _ = some old)
  simp only [hlost, if_true, htarget] at hafter
  exact ⟨htarget, hold, hafter, by decide +kernel⟩

end LineSearch.Settings
