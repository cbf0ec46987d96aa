/-
# The grammar of regular expressions between slashes

A word is a regular expression if it is a body between slashes with flags behind it (`Spells`).  No
flag is a slash, so the slash before the flags is the last one of the word, and the word can be read
in one way only, whatever slashes there are in the body (`Spells.unique`).  A word that is none has
too few slashes, or else there is a first letter behind the last slash that is to blame: one that is
no flag or that has come before (`spelling_or_fault`).  The main result is `parse_grammar`.
-/
import LineSearch.Regex.Literal
import Mathlib.Data.List.Induction
import Mathlib.Data.List.Nodup
import Mathlib.Tactic.Common

namespace LineSearch

/-! ## The last separator -/

namespace Text

variable {c : Char} {t after : Text}

lemma splitAtLast_of_not_mem (h : c ∉ t) : splitAtLast c t = none := by
  induction t with
  | nil => rfl
  | cons d rest ih =>
    obtain ⟨hne, hrest⟩ : c ≠ d ∧ c ∉ rest := by simpa using h
    rw [splitAtLast, ih hrest]
    simp [Ne.symm hne]

/-- A text is cut at a separator that no other one follows. -/
lemma splitAtLast_append (before : Text) (h : c ∉ after) :
    splitAtLast c (before ++ c :: after) = some (before, after) := by
  induction before with
  | nil =>
    rw [List.nil_append, splitAtLast, splitAtLast_of_not_mem h]
    simp
  | cons d rest ih => rw [List.cons_append, splitAtLast, ih]

/-- A separator that occurs at all occurs for a last time. -/
lemma exists_append_of_mem (h : c ∈ t) : ∃ before after, t = before ++ c :: after ∧ c ∉ after := by
  obtain ⟨back, front, hreverse, hnot⟩ := List.eq_append_cons_of_mem (List.mem_reverse.mpr h)
  refine ⟨front.reverse, back.reverse, ?_, by simpa using hnot⟩
  rw [← List.reverse_reverse t, hreverse]
  simp

end Text

/-! ## Flags -/

namespace RegexFlags

/-- The letters that are flags. -/
def letters : Text := ['g', 'i', 'm', 'y']

/-- The flags that are set by some letters. -/
def ofLetters (t : Text) : RegexFlags where
  global := 'g' ∈ t
  ignoreCase := 'i' ∈ t
  multiLine := 'm' ∈ t
  sticky := 'y' ∈ t

/-- Flags as they should be written: every letter is known, and none comes again. -/
structure Spelling (t : Text) : Prop where
  known : ∀ c ∈ t, c ∈ letters
  nodup : t.Nodup

variable {c : Char} {t good : Text}

lemma Spelling.nil : Spelling [] := ⟨by simp, List.nodup_nil⟩

lemma spelling_concat_iff : Spelling (t ++ [c]) ↔ Spelling t ∧ c ∈ letters ∧ c ∉ t := by
  have hconcat : (t ++ [c]).Nodup ↔ c ∉ t ∧ t.Nodup := by
    rw [List.nodup_append_comm, List.singleton_append, List.nodup_cons]
  constructor
  · intro h
    obtain ⟨hnew, hnodup⟩ := hconcat.mp h.nodup
    exact ⟨⟨fun d hd => h.known d (by simp [hd]), hnodup⟩, h.known c (by simp), hnew⟩
  · rintro ⟨h, hknown, hnew⟩
    refine ⟨fun d hd => ?_, hconcat.mpr ⟨hnew, h.nodup⟩⟩
    rcases List.mem_append.mp hd with hd | hd
    · exact h.known d hd
    · exact List.mem_singleton.mp hd ▸ hknown

/-- No flag is a slash. -/
lemma slash_not_mem (h : ∀ c ∈ t, c ∈ letters) : '/' ∉ t :=
  fun hmem => absurd (h '/' hmem) (by decide)

/-! ### Reading flags -/

/-- A known letter is added to those that are set. -/
lemma withLetter_ofLetters (t : Text) (hc : c ∈ letters) :
    (ofLetters t).withLetter c = some (decide (c ∈ t), ofLetters (t ++ [c])) := by
  simp only [letters, List.mem_cons, List.not_mem_nil, or_false] at hc
  rcases hc with rfl | rfl | rfl | rfl <;> simp [withLetter, ofLetters]

lemma withLetter_of_not_mem (f : RegexFlags) (hc : c ∉ letters) : f.withLetter c = none := by
  simp only [letters, List.mem_cons, List.not_mem_nil, or_false, not_or] at hc
  obtain ⟨hg, hi, hm, hy⟩ := hc
  unfold withLetter
  split <;> first | contradiction | rfl

/-- Letters that are written as they should be are read one by one. -/
lemma addLetters_append (h : Spelling good) (rest : Text) :
    addLetters {} (good ++ rest) = (ofLetters good).addLetters rest := by
  induction good using List.reverseRecOn generalizing rest with
  | nil => rfl
  | append_singleton good c ih =>
    obtain ⟨hgood, hknown, hnew⟩ := spelling_concat_iff.mp h
    rw [List.append_assoc, ih hgood, List.singleton_append, addLetters,
      withLetter_ofLetters good hknown, decide_eq_false hnew]

lemma addLetters_of_spelling (h : Spelling t) : addLetters {} t = .ok (ofLetters t) := by
  have hread := addLetters_append h []
  rwa [List.append_nil] at hread

lemma addLetters_of_unknown (h : Spelling good) (hc : c ∉ letters) (rest : Text) :
    addLetters {} (good ++ c :: rest) = .error (.unknownFlag c) := by
  rw [addLetters_append h, addLetters, withLetter_of_not_mem _ hc]

lemma addLetters_of_repeated (h : Spelling good) (hc : c ∈ good) (rest : Text) :
    addLetters {} (good ++ c :: rest) = .error (.duplicateFlag c) := by
  rw [addLetters_append h, addLetters, withLetter_ofLetters good (h.known c hc), decide_eq_true hc]

/-- **Letters that are not written as flags should be have a first one that is to blame.** -/
lemma spelling_or_fault (t : Text) :
    Spelling t ∨
      ∃ good c rest, t = good ++ c :: rest ∧ Spelling good ∧ (c ∉ letters ∨ c ∈ good) := by
  induction t using List.reverseRecOn with
  | nil => exact Or.inl .nil
  | append_singleton t d ih =>
    rcases ih with h | ⟨good, c, rest, rfl, hgood, hc⟩
    · by_cases hd : d ∈ letters ∧ d ∉ t
      · exact Or.inl (spelling_concat_iff.mpr ⟨h, hd⟩)
      · right
        refine ⟨t, d, [], rfl, h, ?_⟩
        rwa [not_and_or, not_not] at hd
    · exact Or.inr ⟨good, c, rest ++ [d], by simp, hgood, hc⟩

end RegexFlags

/-! ## The whole word -/

namespace RegexLiteral

open RegexFlags (Spelling ofLetters addLetters letters)

variable {term body flags body' flags' : Text}

/-- The word is a body between slashes with flags behind it. -/
structure Spells (term body flags : Text) : Prop where
  eq : term = '/' :: (body ++ '/' :: flags)
  spelling : Spelling flags

/-- The body is the shortest one behind which there are a slash and flags. -/
def IsShortestBody (term body : Text) : Prop :=
  (∃ flags, Spells term body flags) ∧
    ∀ body' flags', Spells term body' flags' → body.length ≤ body'.length

/-- What stands before the last slash and behind it is determined by the word. -/
lemma eq_of_eq_append (h : body ++ '/' :: flags = body' ++ '/' :: flags') (hflags : '/' ∉ flags)
    (hflags' : '/' ∉ flags') : body = body' ∧ flags = flags' := by
  have hcut := Text.splitAtLast_append body hflags
  rw [h, Text.splitAtLast_append body' hflags'] at hcut
  obtain ⟨rfl, rfl⟩ := Prod.mk.inj (Option.some.inj hcut)
  exact ⟨rfl, rfl⟩

/-- **A word is read in one way only**, even among letters of which some come again. -/
lemma Spells.unique (h : Spells term body flags) (h' : term = '/' :: (body' ++ '/' :: flags'))
    (hknown : ∀ c ∈ flags', c ∈ letters) : body = body' ∧ flags = flags' :=
  eq_of_eq_append (List.cons.inj (h.eq.symm.trans h')).2
    (RegexFlags.slash_not_mem h.spelling.known) (RegexFlags.slash_not_mem hknown)

lemma isShortestBody_iff : IsShortestBody term body ↔ ∃ flags, Spells term body flags := by
  refine ⟨fun h => h.1, ?_⟩
  rintro ⟨flags, h⟩
  refine ⟨⟨flags, h⟩, fun body' flags' h' => ?_⟩
  obtain ⟨rfl, -⟩ := h.unique h'.eq h'.spelling.known
  exact Nat.le_refl _

/-! ### Reading a word -/

/-- The word has no body between slashes. -/
def Undelimited (term : Text) : Prop := term.head? ≠ some '/' ∨ term.count '/' = 1

lemma parse_of_undelimited (h : Undelimited term) : parse term = .error (.notDelimited term) := by
  unfold parse
  split
  · rename_i rest
    -- the first slash is the only one
    have hrest : '/' ∉ rest := by
      rw [Undelimited, List.head?_cons, List.count_cons_self] at h
      exact List.count_eq_zero.mp (by simpa using h)
    rw [Text.splitAtLast_of_not_mem hrest]
  · rfl

lemma parse_of_delimited (body : Text) (h : '/' ∉ flags) :
    parse ('/' :: (body ++ '/' :: flags)) = (addLetters {} flags).map fun f => ⟨body, f⟩ := by
  simp only [parse, Text.splitAtLast_append body h]
  cases addLetters {} flags <;> rfl

lemma undelimited_or (term : Text) :
    Undelimited term ∨ ∃ body flags, term = '/' :: (body ++ '/' :: flags) ∧ '/' ∉ flags := by
  cases term with
  | nil => exact Or.inl (Or.inl (by simp))
  | cons c rest =>
    by_cases hc : c = '/'
    · subst hc
      by_cases hrest : '/' ∈ rest
      · obtain ⟨body, flags, rfl, hflags⟩ := Text.exists_append_of_mem hrest
        exact Or.inr ⟨body, flags, rfl, hflags⟩
      · left; right
        rw [List.count_cons_self, List.count_eq_zero.mpr hrest]
    · exact Or.inl (Or.inl (by simpa using hc))

/-- The word is a body between slashes; behind the last slash stand flags as they should be written,
and then the letter `c`. -/
structure ReadUpTo (term good : Text) (c : Char) : Prop where
  spelling : Spelling good
  exists_eq : ∃ body rest,
    term = '/' :: (body ++ '/' :: (good ++ c :: rest)) ∧ '/' ∉ good ++ c :: rest

/-- The grammar: what a word is read as. -/
inductive Reading (term : Text) : Except RegexError RegexLiteral → Prop where
  | undelimited : Undelimited term → Reading term (.error (.notDelimited term))
  | spelled {body flags : Text} :
      Spells term body flags → Reading term (.ok ⟨body, ofLetters flags⟩)
  | unknown {good : Text} {c : Char} :
      ReadUpTo term good c → c ∉ letters → Reading term (.error (.unknownFlag c))
  | repeated {good : Text} {c : Char} :
      ReadUpTo term good c → c ∈ good → Reading term (.error (.duplicateFlag c))

/-- Every word can be read. -/
lemma exists_reading (term : Text) : ∃ result, Reading term result := by
  rcases undelimited_or term with h | ⟨body, flags, rfl, hslash⟩
  · exact ⟨_, .undelimited h⟩
  rcases RegexFlags.spelling_or_fault flags with h | ⟨good, c, rest, rfl, hgood, hc⟩
  · exact ⟨_, .spelled ⟨rfl, h⟩⟩
  have hread : ReadUpTo ('/' :: (body ++ '/' :: (good ++ c :: rest))) good c :=
    ⟨hgood, body, rest, rfl, hslash⟩
  rcases hc with hunknown | hrepeated
  · exact ⟨_, .unknown hread hunknown⟩
  · exact ⟨_, .repeated hread hrepeated⟩

lemma Reading.parse_eq {result : Except RegexError RegexLiteral} (h : Reading term result) :
    parse term = result := by
  cases h with
  | undelimited h => exact parse_of_undelimited h
  | spelled h =>
    rw [h.eq, parse_of_delimited _ (RegexFlags.slash_not_mem h.spelling.known),
      RegexFlags.addLetters_of_spelling h.spelling]
    rfl
  | unknown h hc =>
    obtain ⟨body, rest, rfl, hslash⟩ := h.exists_eq
    rw [parse_of_delimited body hslash, RegexFlags.addLetters_of_unknown h.spelling hc]
    rfl
  | repeated h hc =>
    obtain ⟨body, rest, rfl, hslash⟩ := h.exists_eq
    rw [parse_of_delimited body hslash, RegexFlags.addLetters_of_repeated h.spelling hc]
    rfl

/-- **The reader follows the grammar.** -/
lemma parse_eq_iff {result : Except RegexError RegexLiteral} :
    parse term = result ↔ Reading term result := by
  refine ⟨?_, Reading.parse_eq⟩
  rintro rfl
  obtain ⟨result, h⟩ := exists_reading term
  rwa [h.parse_eq]

/-- **The grammar of regular expressions between slashes.**

* A word is read as a body and flags if and only if it is this body between slashes, with letters
  behind it that are flags, none of which comes again, and the flags are those of the letters.
* Body and letters are determined by the word.  The body is also the shortest one behind which there
  are a slash and flags.
* A word is said not to be delimited if and only if it does not begin with a slash or has no other.
* In all other words a letter is to blame, and it is the first one behind the last slash that is no
  flag, or that has come before. -/
theorem parse_grammar (term : Text) :
    (∀ l, parse term = .ok l ↔ ∃ flags, Spells term l.body flags ∧ l.flags = ofLetters flags) ∧
      (∀ body flags body' flags', Spells term body flags → Spells term body' flags' →
        body = body' ∧ flags = flags') ∧
      (∀ body, IsShortestBody term body ↔ ∃ flags, Spells term body flags) ∧
      (∀ t, parse term = .error (.notDelimited t) ↔ t = term ∧ Undelimited term) ∧
      (∀ c, parse term = .error (.unknownFlag c) ↔ ∃ good, ReadUpTo term good c ∧ c ∉ letters) ∧
      (∀ c, parse term = .error (.duplicateFlag c) ↔ ∃ good, ReadUpTo term good c ∧ c ∈ good) ∧
      parse term ≠ .error .invalidBody := by
  simp only [ne_eq, parse_eq_iff]
  refine ⟨fun l => ⟨?_, ?_⟩, fun _ _ _ _ h h' => h.unique h'.eq h'.spelling.known,
    fun _ => isShortestBody_iff, fun t => ⟨?_, ?_⟩, fun c => ⟨?_, ?_⟩, fun c => ⟨?_, ?_⟩, ?_⟩
  · intro h
    cases h with
    | spelled h => exact ⟨_, h, rfl⟩
  · rintro ⟨flags, h, hflags⟩
    obtain ⟨body, _⟩ := l
    obtain rfl := hflags
    exact .spelled h
  · intro h
    cases h with
    | undelimited h => exact ⟨rfl, h⟩
  · rintro ⟨rfl, h⟩
    exact .undelimited h
  · intro h
    cases h with
    | unknown h hc => exact ⟨_, h, hc⟩
  · rintro ⟨good, h, hc⟩
    exact .unknown h hc
  · intro h
    cases h with
    | repeated h hc => exact ⟨_, h, hc⟩
  · rintro ⟨good, h, hc⟩
    exact .repeated h hc
  · intro h
    cases h

/-- The body has slashes in it, and something like flags before the last one. -/
theorem parse_grammar_slashes :
    let term : Text := "/a/i/b//my".toList
    Spells term "a/i/b/".toList "my".toList ∧
      parse term = .ok ⟨"a/i/b/".toList, ofLetters "my".toList⟩ ∧
      ¬ ∃ flags, Spells term "a".toList flags := by
  intro term
  have hknown : ∀ c ∈ "my".toList, c ∈ letters := by
    intro c hc
    rcases List.mem_cons.mp hc with rfl | hc
    · decide
    · obtain rfl := List.mem_singleton.mp hc
      decide
  have hspells : Spells term "a/i/b/".toList "my".toList := ⟨rfl, hknown, by decide⟩
  obtain ⟨hok, hunique, -⟩ := parse_grammar term
  refine ⟨hspells, (hok _).mpr ⟨_, hspells, rfl⟩, ?_⟩
  rintro ⟨flags, hshort⟩
  have hbody := (hunique _ _ _ _ hspells hshort).1
  exact absurd hbody (by decide)

/-- Of two letters that are to blame the first one counts. -/
example : parse "/a/ggx".toList = .error (.duplicateFlag 'g') := by decide

end RegexLiteral

end LineSearch
