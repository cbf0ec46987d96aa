/-
# From the lower case of a line back to its columns

A search that ignores case goes through the lower case of a line, and what it finds is a place of
that.  Each character there comes from a column of the line (`ComesFrom`), and this column is what
the search answers: that of the first place, even if the place is in the middle of what a dotted
capital I became.  The main result is `findIgnoringCase_column`.

The column of a place can also be looked up in the table of the bytes at which the characters of the
line begin in its lower case (`insertionPoint_lowerStarts`).  This table ascends, and so every
search in it gives the same answer (`locates_iff`), which tells the column (`Locates.column_eq`).
-/
import LineSearch.Proofs.InputLine
import LineSearch.Proofs.Text.Bytes
import LineSearch.Proofs.Text.Occurrence

namespace LineSearch.Text

variable {line needle : Text} {place column : Nat}

/-! ## The column that a place comes from -/

/-- The character at a place of the lower case of a line is one of those that the character in the
column became. -/
def ComesFrom (line : Text) (place column : Nat) : Prop :=
  (lowerEach (line.take column)).length ≤ place ∧
    place < (lowerEach (line.take (column + 1))).length

instance (line : Text) (place column : Nat) : Decidable (line.ComesFrom place column) :=
  inferInstanceAs (Decidable (_ ∧ _))

lemma lowerEach_append (t t' : Text) : lowerEach (t ++ t') = lowerEach t ++ lowerEach t' :=
  List.flatMap_append

lemma lowerChar_ne_nil (c : Char) : lowerChar c ≠ [] := by
  have hpos : 0 < (lowerChar c).length := by
    rw [length_lowerChar]
    split <;> omega
  exact List.ne_nil_of_length_pos hpos

lemma length_lowerEach_take_mono {k l : Nat} (h : k ≤ l) :
    (lowerEach (line.take k)).length ≤ (lowerEach (line.take l)).length := by
  obtain ⟨more, hmore⟩ := List.take_prefix_take_left (l := line) h
  rw [← hmore, lowerEach_append, List.length_append]
  omega

/-- Later places do not come from earlier columns. -/
lemma ComesFrom.mono (h : line.ComesFrom place column) {place' column' : Nat}
    (h' : line.ComesFrom place' column') (hle : place ≤ place') : column ≤ column' := by
  by_contra hlt
  have hmono : (lowerEach (line.take (column' + 1))).length ≤
      (lowerEach (line.take column)).length := length_lowerEach_take_mono (by omega)
  have hstart := h.1
  have hstop := h'.2
  omega

lemma comesFrom_zero_iff {c : Char} {rest : Text} :
    ComesFrom (c :: rest) place 0 ↔ place < (lowerChar c).length := by
  simp [ComesFrom, lowerEach]

lemma comesFrom_succ_iff {c : Char} {rest : Text} :
    ComesFrom (c :: rest) place (column + 1) ↔
      (lowerChar c).length ≤ place ∧ rest.ComesFrom (place - (lowerChar c).length) column := by
  simp only [ComesFrom, List.take_succ_cons, lowerEach_cons, List.length_append]
  omega

/-- The columns that go with the lower case of a line are those that its characters come from. -/
lemma map_snd_lowerWithColumns_eq_some_iff {first : Nat} :
    ((lowerWithColumns first line)[place]?).map Prod.snd = some column ↔
      ∃ k, column = first + k ∧ line.ComesFrom place k := by
  induction line generalizing first place with
  | nil => simp [lowerWithColumns, ComesFrom, lowerEach]
  | cons c rest ih =>
    rw [lowerWithColumns]
    by_cases hplace : place < (lowerChar c).length
    · rw [List.getElem?_append_left (by simpa using hplace), List.getElem?_map,
        List.getElem?_eq_getElem hplace]
      constructor
      · intro h
        obtain rfl : first = column := by simpa using h
        exact ⟨0, rfl, comesFrom_zero_iff.mpr hplace⟩
      · rintro ⟨k, rfl, hk⟩
        cases k with
        | zero => rfl
        | succ k =>
          have hle := (comesFrom_succ_iff.mp hk).1
          omega
    · rw [List.getElem?_append_right (by simpa using hplace), List.length_map, ih]
      constructor
      · rintro ⟨k, rfl, hk⟩
        exact ⟨k + 1, by omega, comesFrom_succ_iff.mpr ⟨by omega, hk⟩⟩
      · rintro ⟨k, rfl, hk⟩
        cases k with
        | zero => exact absurd (comesFrom_zero_iff.mp hk) hplace
        | succ k => exact ⟨k, by omega, (comesFrom_succ_iff.mp hk).2⟩

/-- Every place of the lower case comes from a column. -/
lemma exists_comesFrom (h : place < (lowerEach line).length) :
    ∃ column, line.ComesFrom place column := by
  have hlt : place < (lowerWithColumns 0 line).length := by
    rwa [← List.length_map (f := Prod.fst), map_fst_lowerWithColumns]
  have hcolumn : ((lowerWithColumns 0 line)[place]?).map Prod.snd =
      some (lowerWithColumns 0 line)[place].2 := by
    rw [List.getElem?_eq_getElem hlt]
    rfl
  obtain ⟨k, -, hk⟩ := map_snd_lowerWithColumns_eq_some_iff.mp hcolumn
  exact ⟨k, hk⟩

/-- **What a search that ignores case finds.** -/
lemma findIgnoringCase_eq_some_iff (hne : needle ≠ []) :
    findIgnoringCase line needle = some column ↔
      ∃ place, FirstAt needle (lowerEach line) place ∧ line.ComesFrom place column := by
  simp only [findIgnoringCase, hne, if_false, map_fst_lowerWithColumns, Option.bind_eq_some_iff,
    findExact_eq_some_iff, map_snd_lowerWithColumns_eq_some_iff, Nat.zero_add,
    exists_eq_left']

/-- The lower case of a text that is known to be in a line is found there or before. -/
lemma exists_findIgnoringCase_le (before : Text) {word : Text} (hne : word ≠ []) (after : Text) :
    ∃ column ≤ before.length,
      findIgnoringCase (before ++ word ++ after) (lowerEach word) = some column := by
  obtain ⟨c, rest, rfl⟩ := List.exists_cons_of_ne_nil hne
  have hlower : lowerEach (c :: rest) ≠ [] := by
    rw [lowerEach_cons]
    exact List.append_ne_nil_of_left_ne_nil (lowerChar_ne_nil c) _
  obtain ⟨place, hle, hplace⟩ :=
    exists_findExact_le (lowerEach before) (lowerEach (c :: rest)) (lowerEach after)
  rw [← lowerEach_append, ← lowerEach_append, findExact_eq_some_iff] at hplace
  obtain ⟨column, hcolumn⟩ := exists_comesFrom (hplace.lt hlower)
  -- the lower case of the text itself comes from where it begins
  have hbegin : (before ++ c :: rest ++ after).ComesFrom (lowerEach before).length
      before.length := by
    have hpos : 0 < (lowerChar c).length := List.length_pos_iff.mpr (lowerChar_ne_nil c)
    have htake : (before ++ c :: rest ++ after).take (before.length + 1) = before ++ [c] := by
      rw [List.append_assoc, List.take_length_add_append]
      rfl
    have hstop : (lowerEach (before ++ [c])).length =
        (lowerEach before).length + (lowerChar c).length := by
      rw [lowerEach_append, List.length_append]
      simp [lowerEach]
    refine ⟨by simp, ?_⟩
    rw [htake, hstop]
    omega
  exact ⟨column, hcolumn.mono hbegin hle,
    (findIgnoringCase_eq_some_iff hlower).mpr ⟨place, hplace, hcolumn⟩⟩

/-! ## Lines that do not grow -/

/-- The characters of a line from a column on are, each in lower case, those of a text. -/
def LowersTo (line needle : Text) (column : Nat) : Prop :=
  column + needle.length ≤ line.length ∧
    lowerEach ((line.drop column).take needle.length) = needle

instance (line needle : Text) (column : Nat) : Decidable (line.LowersTo needle column) :=
  inferInstanceAs (Decidable (_ ∧ _))

/-- If every character has one character as its lower case, these are put in a row. -/
lemma lowerEach_eq_map {t : Text} (h : ∀ c ∈ t, (lowerChar c).length = 1) :
    lowerEach t = t.map fun c => (lowerChar c).headD c := by
  induction t with
  | nil => rfl
  | cons c rest ih =>
    obtain ⟨d, hd⟩ := List.length_eq_one_iff.mp (h c (by simp))
    rw [lowerEach_cons, ih fun e he => h e (by simp [he]), List.map_cons, hd]
    rfl

/-- In a line that does not grow each place comes from the column with its number. -/
lemma ComesFrom.eq_of_forall_length (hcolumn : line.ComesFrom place column)
    (h : ∀ c ∈ line, (lowerChar c).length = 1) : place = column := by
  have hlength (k : Nat) : (lowerEach (line.take k)).length = min k line.length := by
    rw [lowerEach_eq_map fun c hc => h c (List.mem_of_mem_take hc), List.length_map,
      List.length_take]
  rw [ComesFrom, hlength, hlength] at hcolumn
  omega

lemma prefix_drop_lowerEach_iff (hne : needle ≠ []) (h : ∀ c ∈ line, (lowerChar c).length = 1) :
    needle <+: (lowerEach line).drop column ↔ line.LowersTo needle column := by
  have hpos : 0 < needle.length := List.length_pos_iff.mpr hne
  have hslice : ((lowerEach line).drop column).take needle.length =
      lowerEach ((line.drop column).take needle.length) := by
    have hpart : ∀ c ∈ (line.drop column).take needle.length, (lowerChar c).length = 1 := by
      intro c hc
      exact h c (List.mem_of_mem_drop (List.mem_of_mem_take hc))
    rw [lowerEach_eq_map h, lowerEach_eq_map hpart, List.map_take, List.map_drop]
  rw [List.prefix_iff_eq_take, hslice, LowersTo, eq_comm]
  refine ⟨fun heq => ⟨?_, heq⟩, fun hlowers => hlowers.2⟩
  -- the slice is as long as the text, so it does not reach past the end of the line
  have hlength := congrArg List.length heq
  rw [← hslice, List.length_take, List.length_drop, lowerEach_eq_map h, List.length_map] at hlength
  omega

/-! ## Searching in ascending tables -/

/-- Where a number stands in an ascending table, or else where it would have to be put. -/
def insertionPoint (table : List Nat) (n : Nat) : Nat := table.findIdx (n ≤ ·)

/-- Which answers a search in a table may give for a number: that the number stands at a place, or
that it stands nowhere and would have to be put at a place, behind those that are smaller. -/
def Locates (table : List Nat) (n : Nat) : Except Nat Nat → Prop
  | .ok place => table[place]? = some n
  | .error place =>
    n ∉ table ∧ place ≤ table.length ∧
      ∀ (i : Nat) (h : i < table.length), i < place ↔ table[i] < n

lemma insertionPoint_le_length (table : List Nat) (n : Nat) :
    insertionPoint table n ≤ table.length :=
  List.findIdx_le_length

section

variable {table : List Nat} {n : Nat}

/-- The numbers before the insertion point are those that are smaller. -/
lemma lt_insertionPoint_iff (hascends : table.Pairwise (· < ·)) {i : Nat} (h : i < table.length) :
    i < insertionPoint table n ↔ table[i] < n := by
  constructor
  · intro hlt
    simpa using List.not_of_lt_findIdx hlt
  · intro hless
    by_contra hle
    have hpoint : insertionPoint table n < table.length := by omega
    have hfound : n ≤ table[insertionPoint table n] :=
      of_decide_eq_true (List.findIdx_getElem (w := hpoint))
    rcases Nat.eq_or_lt_of_le (Nat.not_lt.mp hle) with rfl | hbefore
    · omega
    · have hsmaller := List.pairwise_iff_getElem.mp hascends _ _ hpoint h hbefore
      omega

/-- A number stands nowhere but at its insertion point. -/
lemma eq_insertionPoint_of_getElem? (hascends : table.Pairwise (· < ·)) {place : Nat}
    (h : table[place]? = some n) : place = insertionPoint table n := by
  obtain ⟨hplace, hn⟩ := List.getElem?_eq_some_iff.mp h
  have hnot : ¬ place < insertionPoint table n := by
    rw [lt_insertionPoint_iff hascends hplace]
    omega
  by_contra hne
  have hpoint : insertionPoint table n < table.length := by omega
  have hsmaller := List.pairwise_iff_getElem.mp hascends _ _ hpoint hplace (by omega)
  exact Nat.lt_irrefl _ ((lt_insertionPoint_iff hascends hpoint).mpr (by omega))

lemma mem_iff_getElem?_insertionPoint (hascends : table.Pairwise (· < ·)) :
    n ∈ table ↔ table[insertionPoint table n]? = some n := by
  rw [List.mem_iff_getElem?]
  constructor
  · rintro ⟨place, h⟩
    rwa [← eq_insertionPoint_of_getElem? hascends h]
  · exact fun h => ⟨_, h⟩

lemma locates_ok_iff (hascends : table.Pairwise (· < ·)) {place : Nat} :
    Locates table n (.ok place) ↔ n ∈ table ∧ place = insertionPoint table n := by
  constructor
  · intro h
    exact ⟨List.mem_iff_getElem?.mpr ⟨place, h⟩, eq_insertionPoint_of_getElem? hascends h⟩
  · rintro ⟨hmem, rfl⟩
    exact (mem_iff_getElem?_insertionPoint hascends).mp hmem

lemma locates_error_iff (hascends : table.Pairwise (· < ·)) {place : Nat} :
    Locates table n (.error place) ↔ n ∉ table ∧ place = insertionPoint table n := by
  constructor
  · rintro ⟨hnot, hplace, hless⟩
    -- both places are behind the numbers that are smaller
    have hboth (i : Nat) (hi : i < table.length) : i < place ↔ i < insertionPoint table n :=
      (hless i hi).trans (lt_insertionPoint_iff hascends hi).symm
    have hpoint := insertionPoint_le_length table n
    have hthere := hboth place
    have hhere := hboth (insertionPoint table n)
    exact ⟨hnot, by omega⟩
  · rintro ⟨hnot, rfl⟩
    exact ⟨hnot, insertionPoint_le_length table n, fun i hi => lt_insertionPoint_iff hascends hi⟩

/-- **In a table that ascends there is one answer for each number.** -/
lemma locates_iff (hascends : table.Pairwise (· < ·)) {answer : Except Nat Nat} :
    Locates table n answer ↔
      answer = if n ∈ table then .ok (insertionPoint table n)
        else .error (insertionPoint table n) := by
  cases answer with
  | ok place =>
    rw [locates_ok_iff hascends]
    by_cases hmem : n ∈ table <;> simp [hmem]
  | error place =>
    rw [locates_error_iff hascends]
    by_cases hmem : n ∈ table <;> simp [hmem]

end

lemma insertionPoint_cons_of_le {n start : Nat} {table : List Nat} (h : n ≤ start) :
    insertionPoint (start :: table) n = 0 := by
  simp [insertionPoint, List.findIdx_cons, h]

lemma insertionPoint_cons_of_lt {n start : Nat} {table : List Nat} (h : start < n) :
    insertionPoint (start :: table) n = insertionPoint table n + 1 := by
  have hnot : ¬ n ≤ start := by omega
  simp [insertionPoint, List.findIdx_cons, hnot]

/-! ## The table of beginnings -/

/-- The offsets in UTF-8 at which the characters of a line begin in its lower case; `offset` is that
of the first one. -/
def lowerStarts (offset : Nat) : Text → List Nat
  | [] => []
  | c :: rest => offset :: lowerStarts (offset + (lowerChar c).byteLength) rest

lemma le_of_mem_lowerStarts {first start : Nat} (h : start ∈ lowerStarts first line) :
    first ≤ start := by
  induction line generalizing first with
  | nil => simp [lowerStarts] at h
  | cons c rest ih =>
    rcases List.mem_cons.mp h with rfl | hrest
    · exact Nat.le_refl _
    · have hle := ih hrest
      omega

/-- The offsets ascend, since no character becomes nothing. -/
lemma pairwise_lowerStarts (first : Nat) (line : Text) :
    (lowerStarts first line).Pairwise (· < ·) := by
  induction line generalizing first with
  | nil => exact List.Pairwise.nil
  | cons c rest ih =>
    refine List.pairwise_cons.mpr ⟨fun start hstart => ?_, ih _⟩
    have hle := le_of_mem_lowerStarts hstart
    have hpos := byteLength_pos_iff.mpr (lowerChar_ne_nil c)
    omega

/-- A longer beginning of a text has more bytes. -/
lemma byteLength_take_lt {t : Text} {i j : Nat} (hij : i < j) (hj : j ≤ t.length) :
    byteLength (t.take i) < byteLength (t.take j) := by
  obtain ⟨more, hmore⟩ := List.take_prefix_take_left (l := t) (Nat.le_of_lt hij)
  have hlength := congrArg List.length hmore
  rw [List.length_append, List.length_take, List.length_take] at hlength
  obtain ⟨c, rest, rfl⟩ := List.exists_cons_of_length_pos (l := more) (by omega)
  have hpos : 0 < c.utf8Size := c.utf8Size_pos
  rw [← hmore, byteLength_append, byteLength]
  omega

/-- No character of a line begins before the first one does. -/
lemma insertionPoint_lowerStarts_of_le {n first : Nat} (h : n ≤ first) (line : Text) :
    insertionPoint (lowerStarts first line) n = 0 := by
  cases line with
  | nil => rfl
  | cons c rest => exact insertionPoint_cons_of_le h

lemma getElem?_lowerStarts_zero_ne {n first : Nat} (h : n < first) (line : Text) :
    (lowerStarts first line)[0]? ≠ some n := by
  cases line with
  | nil => simp [lowerStarts]
  | cons c rest =>
    have hne : first ≠ n := by omega
    simpa [lowerStarts] using hne

/-- **The table leads to the column as well.**  If a character of the line begins at a place of the
lower case, the table has the offset of the place, and otherwise the offset would be put behind that
of the character that it comes from; so there is always one before it. -/
lemma insertionPoint_lowerStarts (h : line.ComesFrom place column) (first : Nat) :
    let starts := lowerStarts first line
    let offset := first + byteLength ((lowerEach line).take place)
    let next := insertionPoint starts offset
    next = if starts[next]? = some offset then column else column + 1 := by
  induction line generalizing first place column with
  | nil => simp [ComesFrom, lowerEach] at h
  | cons c rest ih =>
    intro starts offset next
    have hstarts : starts = first :: lowerStarts (first + byteLength (lowerChar c)) rest := rfl
    cases column with
    | zero =>
      have hplace : place < (lowerChar c).length := comesFrom_zero_iff.mp h
      have htake : offset = first + byteLength ((lowerChar c).take place) := by
        simp only [offset, lowerEach_cons]
        rw [List.take_append_of_le_length (Nat.le_of_lt hplace)]
      by_cases hzero : place = 0
      · have hoffset : offset = first := by simp [htake, hzero, byteLength]
        have hnext : next = 0 := insertionPoint_cons_of_le (Nat.le_of_eq hoffset)
        simp [hnext, hstarts, hoffset]
      · -- the place is within what the first character became
        have hfirst : first < offset := by
          have hlt := byteLength_take_lt (Nat.pos_of_ne_zero hzero) (Nat.le_of_lt hplace)
          omega
        have hsecond : offset < first + byteLength (lowerChar c) := by
          have hlt := byteLength_take_lt hplace (Nat.le_refl _)
          rw [List.take_length] at hlt
          omega
        have hrest := insertionPoint_lowerStarts_of_le (Nat.le_of_lt hsecond) rest
        have hnext : next = 0 + 1 := by
          rw [← hrest]
          exact insertionPoint_cons_of_lt hfirst
        have hnone : starts[1]? ≠ some offset := getElem?_lowerStarts_zero_ne hsecond rest
        rw [hnext, if_neg hnone]
    | succ column =>
      obtain ⟨hle, hrest⟩ := comesFrom_succ_iff.mp h
      have hoffset : offset = first + byteLength (lowerChar c) +
          byteLength ((lowerEach rest).take (place - (lowerChar c).length)) := by
        simp only [offset, lowerEach_cons]
        rw [List.take_append, List.take_of_length_le hle, byteLength_append, Nat.add_assoc]
      have hfirst : first < offset := by
        have hlt := byteLength_take_lt (List.length_pos_iff.mpr (lowerChar_ne_nil c))
          (Nat.le_refl _)
        rw [List.take_length] at hlt
        omega
      have hnext : next =
          insertionPoint (lowerStarts (first + byteLength (lowerChar c)) rest) offset + 1 :=
        insertionPoint_cons_of_lt hfirst
      have hih := ih hrest (first + byteLength (lowerChar c))
      simp only [← hoffset] at hih
      rw [hnext, hstarts, List.getElem?_cons_succ]
      split at hih
      · rename_i hfound
        rw [if_pos hfound, hih]
      · rename_i hfound
        rw [if_neg hfound, hih]

/-- The column that an answer of a search in the table of beginnings tells: that of the character
that begins at the place, or else of the one before. -/
def columnOf : Except Nat Nat → Nat
  | .ok place => place
  | .error place => place - 1

/-- **So every search in the table leads to the column.** -/
lemma Locates.columnOf_eq {answer : Except Nat Nat}
    (h : Locates (lowerStarts 0 line) (byteLength ((lowerEach line).take place)) answer)
    (hcolumn : line.ComesFrom place column) : columnOf answer = column := by
  have hascends := pairwise_lowerStarts 0 line
  have hplace := insertionPoint_lowerStarts hcolumn 0
  simp only [Nat.zero_add, ← mem_iff_getElem?_insertionPoint hascends] at hplace
  rw [(locates_iff hascends).mp h]
  split
  · next hfound =>
    rw [if_pos hfound] at hplace
    exact hplace
  · next hmissing =>
    rw [if_neg hmissing] at hplace
    rw [columnOf, hplace, Nat.add_sub_cancel]

/-! ## The search -/

/-- **What a search that ignores case answers.**  Let a text that is not empty be looked for in a
line.

* Nothing is found if and only if the text is not part of the lower case of the line, taken
  character by character.
* Otherwise the answer is the column that the first place of the text in this lower case comes from.
* If each character of the line has one character as its lower case, the characters of the line from
  this column on become those of the text, and from no column before it.
* In the table of the offsets at which the characters begin, the offset of the first place either
  stands at the number of this column or would have to be put right behind it.
* This table ascends.  Whatever answer a search in it gives for the offset of the first place, it
  leads to this column. -/
theorem findIgnoringCase_column (line : Text) {needle : Text} (hne : needle ≠ []) :
    (findIgnoringCase line needle = none ↔ ¬ needle <:+: lowerEach line) ∧
      (∀ column, findIgnoringCase line needle = some column ↔
        ∃ place, FirstAt needle (lowerEach line) place ∧ line.ComesFrom place column) ∧
      ((∀ c ∈ line, (lowerChar c).length = 1) →
        ∀ column, findIgnoringCase line needle = some column →
          line.LowersTo needle column ∧ ∀ k < column, ¬ line.LowersTo needle k) ∧
      (∀ place column, FirstAt needle (lowerEach line) place → line.ComesFrom place column →
        let starts := lowerStarts 0 line
        let offset := byteLength ((lowerEach line).take place)
        let next := insertionPoint starts offset
        next = if starts[next]? = some offset then column else column + 1) ∧
      (lowerStarts 0 line).Pairwise (· < ·) ∧
      ∀ place column, FirstAt needle (lowerEach line) place → line.ComesFrom place column →
        ∀ answer, Locates (lowerStarts 0 line) (byteLength ((lowerEach line).take place)) answer →
          columnOf answer = column := by
  refine ⟨?_, fun _ => findIgnoringCase_eq_some_iff hne, fun hsingle column hcolumn => ?_,
    fun place column _ hcolumn => ?_, pairwise_lowerStarts 0 line,
    fun place column _ hcolumn answer hanswer => hanswer.columnOf_eq hcolumn⟩
  · rw [← isSome_findIgnoringCase_iff, Bool.not_eq_true, Option.isSome_eq_false_iff,
      Option.isNone_iff_eq_none]
  · obtain ⟨place, hfirst, hcomes⟩ := (findIgnoringCase_eq_some_iff hne).mp hcolumn
    obtain rfl := hcomes.eq_of_forall_length hsingle
    simp only [← prefix_drop_lowerEach_iff hne hsingle]
    exact ⟨hfirst.occurs, hfirst.least⟩
  · have htable := insertionPoint_lowerStarts hcolumn 0
    rwa [Nat.zero_add] at htable

/-- A dot that belongs to a capital I is found in the column of the letter, although it stands in
the middle of what this became.  In a line without such a letter the span lies in the line. -/
theorem findIgnoringCase_column_dotted :
    let line : Text := ['a', '\u0130', 'X', 'Y']
    let dot : Text := ['\u0307', 'x']
    let plain : Text := ['a', 'X', 'Y']
    let needle : Text := ['x', 'y']
    dot ≠ [] ∧ findIgnoringCase line dot = some 1 ∧
      (∃ place, FirstAt dot (lowerEach line) place ∧ line.ComesFrom place 1) ∧
      (∀ c ∈ plain, (lowerChar c).length = 1) ∧ findIgnoringCase plain needle = some 1 ∧
      plain.LowersTo needle 1 ∧ ∀ k < 1, ¬ plain.LowersTo needle k := by
  intro line dot plain needle
  have hdot : dot ≠ [] := by decide
  have hneedle : needle ≠ [] := by decide
  have hsingle : ∀ c ∈ plain, (lowerChar c).length = 1 := by
    intro c hc
    simp only [plain, List.mem_cons, List.not_mem_nil, or_false] at hc
    rcases hc with rfl | rfl | rfl <;> rfl
  have hfound : findIgnoringCase line dot = some 1 := by decide
  have hplain : findIgnoringCase plain needle = some 1 := by decide
  obtain ⟨hlowers, hleast⟩ :=
    (findIgnoringCase_column plain hneedle).2.2.1 hsingle 1 hplain
  exact ⟨hdot, hfound, ((findIgnoringCase_column line hdot).2.1 1).mp hfound, hsingle, hplain,
    hlowers, hleast⟩

end LineSearch.Text
