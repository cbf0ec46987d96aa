/-
# The grammar of JSON

What a text in JSON says, as a relation between a text and a tree of values: `Json.Denotes`.  Numbers
stay as they are written, so that none is too large, and the entries of a table keep their order.
The parts that have no parts of their own, such as quoted texts, are those of the reader in
`Data/Json`.

A text says one thing at most (`Denotes.eq`).  The rest of the file is about notations that are
written elsewhere: quoted texts, natural numbers and entries.
-/
import LineSearch.Proofs.Text.Decimal
import LineSearch.Proofs.Text.JsonString

namespace LineSearch.Data.Json

/-- A value in JSON. -/
inductive Tree where
  | nothing
  | bool (b : Bool)
  | number (n : Numeral)
  | text (t : Text)
  | list (items : List Tree)
  | table (entries : List (Text × Tree))

/-- The text between quotes whose first one has just been passed, and what follows it. -/
def inner? (t : Text) : Option (Text × Text) := quoted? t.length.succ t

mutual

/-- `Begins t v rest`: the text begins with the value, blanks before it apart, and `rest` is what
follows. -/
inductive Begins : Text → Tree → Text → Prop
  | nothing {t rest : Text} (ht : skip t = 'n' :: 'u' :: 'l' :: 'l' :: rest) :
      Begins t .nothing rest
  | yes {t rest : Text} (ht : skip t = 't' :: 'r' :: 'u' :: 'e' :: rest) :
      Begins t (.bool true) rest
  | no {t rest : Text} (ht : skip t = 'f' :: 'a' :: 'l' :: 's' :: 'e' :: rest) :
      Begins t (.bool false) rest
  | number {t rest : Text} {n : Numeral} (hn : numeral? (skip t) = some (n, rest)) :
      Begins t (.number n) rest
  | text {t inside s rest : Text} (ht : skip t = '"' :: inside)
      (hs : inner? inside = some (s, rest)) : Begins t (.text s) rest
  | emptyList {t inside rest : Text} (ht : skip t = '[' :: inside)
      (hclose : skip inside = ']' :: rest) : Begins t (.list []) rest
  | list {t inside rest : Text} {vs : List Tree} (ht : skip t = '[' :: inside)
      (hitems : BeginsItems inside vs rest) : Begins t (.list vs) rest
  | emptyTable {t inside rest : Text} (ht : skip t = '\x7b' :: inside)
      (hclose : skip inside = '\x7d' :: rest) : Begins t (.table []) rest
  | table {t inside rest : Text} {es : List (Text × Tree)} (ht : skip t = '\x7b' :: inside)
      (hentries : BeginsEntries inside es rest) : Begins t (.table es) rest

/-- The text begins with the items of a list, one at least, and the bracket that closes it. -/
inductive BeginsItems : Text → List Tree → Text → Prop
  | last {t after rest : Text} {v : Tree} (hv : Begins t v after)
      (hclose : skip after = ']' :: rest) : BeginsItems t [v] rest
  | cons {t after more rest : Text} {v : Tree} {vs : List Tree} (hv : Begins t v after)
      (hcomma : skip after = ',' :: more) (hmore : BeginsItems more vs rest) :
      BeginsItems t (v :: vs) rest

/-- The text begins with an entry of a table: its name, a colon and its value. -/
inductive BeginsEntry : Text → Text × Tree → Text → Prop
  | mk {t inside name next body rest : Text} {v : Tree} (ht : skip t = '"' :: inside)
      (hname : inner? inside = some (name, next)) (hcolon : skip next = ':' :: body)
      (hv : Begins body v rest) : BeginsEntry t (name, v) rest

/-- The text begins with the entries of a table, one at least, and the brace that closes it. -/
inductive BeginsEntries : Text → List (Text × Tree) → Text → Prop
  | last {t after rest : Text} {e : Text × Tree} (he : BeginsEntry t e after)
      (hclose : skip after = '\x7d' :: rest) : BeginsEntries t [e] rest
  | cons {t after more rest : Text} {e : Text × Tree} {es : List (Text × Tree)}
      (he : BeginsEntry t e after) (hcomma : skip after = ',' :: more)
      (hmore : BeginsEntries more es rest) : BeginsEntries t (e :: es) rest

end

/-- The text says the value and nothing else, blanks around it apart. -/
def Denotes (t : Text) (v : Tree) : Prop := ∃ rest, Begins t v rest ∧ skip rest = []

/-! ## A text says one thing at most -/

/-- A number begins with a digit or a sign. -/
lemma numeral?_cons {c : Char} (hminus : c ≠ '-') (hdigit : c.isDigit = false) (rest : Text) :
    numeral? (c :: rest) = none := by
  unfold numeral?
  simp [digits, hdigit, hminus]

lemma Begins.skip_ne_close {t after rest : Text} {v : Tree} (h : Begins t v after) :
    skip t ≠ ']' :: rest := by
  intro hclose
  cases h <;> simp_all [numeral?_cons]

lemma BeginsItems.skip_ne_close {t after rest : Text} {vs : List Tree}
    (h : BeginsItems t vs after) : skip t ≠ ']' :: rest := by
  cases h with
  | last hv => exact hv.skip_ne_close
  | cons hv => exact hv.skip_ne_close

lemma BeginsEntry.skip_ne_close {t after rest : Text} {e : Text × Tree}
    (h : BeginsEntry t e after) : skip t ≠ '\x7d' :: rest := by
  obtain ⟨ht, -, -, -⟩ := h
  rw [ht]
  simp

lemma BeginsEntries.skip_ne_close {t after rest : Text} {es : List (Text × Tree)}
    (h : BeginsEntries t es after) : skip t ≠ '\x7d' :: rest := by
  cases h with
  | last he => exact he.skip_ne_close
  | cons he => exact he.skip_ne_close

mutual

/-- A text begins with one value at most, and what follows it is determined. -/
theorem Begins.unique {t r r' : Text} {v v' : Tree} (h : Begins t v r) (h' : Begins t v' r') :
    v = v' ∧ r = r' := by
  -- the first character tells the kinds of values apart, but not an empty list or table from others
  cases h with
  | nothing ht => cases h' <;> simp_all [numeral?_cons]
  | yes ht => cases h' <;> simp_all [numeral?_cons]
  | no ht => cases h' <;> simp_all [numeral?_cons]
  | number hn => cases h' <;> simp_all [numeral?_cons]
  | text ht hs => cases h' <;> simp_all [numeral?_cons]
  | emptyList ht hclose =>
    cases h' with
    | list ht' hitems' =>
      obtain ⟨-, rfl⟩ := List.cons.inj (ht.symm.trans ht')
      exact absurd hclose hitems'.skip_ne_close
    | _ => simp_all [numeral?_cons]
  | list ht hitems =>
    cases h' with
    | emptyList ht' hclose' =>
      obtain ⟨-, rfl⟩ := List.cons.inj (ht.symm.trans ht')
      exact absurd hclose' hitems.skip_ne_close
    | list ht' hitems' =>
      obtain ⟨-, rfl⟩ := List.cons.inj (ht.symm.trans ht')
      obtain ⟨rfl, rfl⟩ := hitems.unique hitems'
      exact ⟨rfl, rfl⟩
    | _ => simp_all [numeral?_cons]
  | emptyTable ht hclose =>
    cases h' with
    | table ht' hentries' =>
      obtain ⟨-, rfl⟩ := List.cons.inj (ht.symm.trans ht')
      exact absurd hclose hentries'.skip_ne_close
    | _ => simp_all [numeral?_cons]
  | table ht hentries =>
    cases h' with
    | emptyTable ht' hclose' =>
      obtain ⟨-, rfl⟩ := List.cons.inj (ht.symm.trans ht')
      exact absurd hclose' hentries.skip_ne_close
    | table ht' hentries' =>
      obtain ⟨-, rfl⟩ := List.cons.inj (ht.symm.trans ht')
      obtain ⟨rfl, rfl⟩ := hentries.unique hentries'
      exact ⟨rfl, rfl⟩
    | _ => simp_all [numeral?_cons]
termination_by sizeOf v

theorem BeginsItems.unique {t r r' : Text} {vs vs' : List Tree} (h : BeginsItems t vs r)
    (h' : BeginsItems t vs' r') : vs = vs' ∧ r = r' := by
  cases h with
  | last hv hclose =>
    cases h' with
    | last hv' hclose' =>
      obtain ⟨rfl, rfl⟩ := hv.unique hv'
      obtain ⟨-, rfl⟩ := List.cons.inj (hclose.symm.trans hclose')
      exact ⟨rfl, rfl⟩
    | cons hv' hcomma' =>
      obtain ⟨rfl, rfl⟩ := hv.unique hv'
      exact absurd (hclose.symm.trans hcomma') (by simp)
  | cons hv hcomma hmore =>
    cases h' with
    | last hv' hclose' =>
      obtain ⟨rfl, rfl⟩ := hv.unique hv'
      exact absurd (hcomma.symm.trans hclose') (by simp)
    | cons hv' hcomma' hmore' =>
      obtain ⟨rfl, rfl⟩ := hv.unique hv'
      obtain ⟨-, rfl⟩ := List.cons.inj (hcomma.symm.trans hcomma')
      obtain ⟨rfl, rfl⟩ := hmore.unique hmore'
      exact ⟨rfl, rfl⟩
termination_by sizeOf vs

theorem BeginsEntry.unique {t r r' : Text} {e e' : Text × Tree} (h : BeginsEntry t e r)
    (h' : BeginsEntry t e' r') : e = e' ∧ r = r' := by
  cases h with
  | mk ht hname hcolon hv =>
    cases h' with
    | mk ht' hname' hcolon' hv' =>
      obtain ⟨-, rfl⟩ := List.cons.inj (ht.symm.trans ht')
      obtain ⟨rfl, rfl⟩ := Prod.mk.inj (Option.some.inj (hname.symm.trans hname'))
      obtain ⟨-, rfl⟩ := List.cons.inj (hcolon.symm.trans hcolon')
      obtain ⟨rfl, rfl⟩ := hv.unique hv'
      exact ⟨rfl, rfl⟩
termination_by sizeOf e

theorem BeginsEntries.unique {t r r' : Text} {es es' : List (Text × Tree)}
    (h : BeginsEntries t es r) (h' : BeginsEntries t es' r') : es = es' ∧ r = r' := by
  cases h with
  | last he hclose =>
    cases h' with
    | last he' hclose' =>
      obtain ⟨rfl, rfl⟩ := he.unique he'
      obtain ⟨-, rfl⟩ := List.cons.inj (hclose.symm.trans hclose')
      exact ⟨rfl, rfl⟩
    | cons he' hcomma' =>
      obtain ⟨rfl, rfl⟩ := he.unique he'
      exact absurd (hclose.symm.trans hcomma') (by simp)
  | cons he hcomma hmore =>
    cases h' with
    | last he' hclose' =>
      obtain ⟨rfl, rfl⟩ := he.unique he'
      exact absurd (hcomma.symm.trans hclose') (by simp)
    | cons he' hcomma' hmore' =>
      obtain ⟨rfl, rfl⟩ := he.unique he'
      obtain ⟨-, rfl⟩ := List.cons.inj (hcomma.symm.trans hcomma')
      obtain ⟨rfl, rfl⟩ := hmore.unique hmore'
      exact ⟨rfl, rfl⟩
termination_by sizeOf es

end

/-- **What a text says is determined.** -/
lemma Denotes.eq {t : Text} {v v' : Tree} (h : Denotes t v) (h' : Denotes t v') : v = v' := by
  obtain ⟨_, hv, _⟩ := h
  obtain ⟨_, hv', _⟩ := h'
  exact (hv.unique hv').1

/-! ## What is written -/

lemma inner?_append {t rest : Text} :
    inner? (t.flatMap Text.jsonChar ++ '"' :: rest) = some (t, rest) := by
  have hle := Text.length_le_flatMap_jsonChar t
  apply Text.quoted?_flatMap_jsonChar
  rw [List.length_append]
  omega

lemma jsonString_append (t rest : Text) :
    Text.jsonString t ++ rest = '"' :: (t.flatMap Text.jsonChar ++ '"' :: rest) := by
  simp [Text.jsonString]

/-- A quoted text. -/
lemma begins_text (t rest : Text) : Begins (Text.jsonString t ++ rest) (.text t) rest := by
  rw [jsonString_append]
  exact .text rfl inner?_append

/-- An entry with a quoted name. -/
lemma beginsEntry {name body rest : Text} {v : Tree} (hv : Begins body v rest) :
    BeginsEntry (Text.jsonString name ++ ':' :: body) (name, v) rest := by
  rw [jsonString_append]
  exact .mk rfl inner?_append rfl hv

/-- A list whose items are written one by one, with commas between them. -/
lemma begins_list {α : Type} {write : α → Text} {tree : α → Tree}
    (h : ∀ a rest, Begins (write a ++ rest) (tree a) rest) (items : List α) (rest : Text) :
    Begins ('[' :: (Text.join [','] (items.map write) ++ ']' :: rest)) (.list (items.map tree))
      rest := by
  -- a comma stands behind each item but the last one, so the induction is on those after the first
  have hitems : ∀ a more, BeginsItems (Text.join [','] ((a :: more).map write) ++ ']' :: rest)
      ((a :: more).map tree) rest := by
    intro a more
    induction more generalizing a with
    | nil => exact .last (h a _) rfl
    | cons b more ih =>
      have htext : Text.join [','] ((a :: b :: more).map write) ++ ']' :: rest =
          write a ++ ',' :: (Text.join [','] ((b :: more).map write) ++ ']' :: rest) := by
        simp [Text.join]
      rw [htext]
      exact .cons (h a _) rfl (ih b)
  cases items with
  | nil => exact .emptyList rfl rfl
  | cons a more => exact .list rfl (hitems a more)

/-- A natural number as it is written. -/
def natural (n : Nat) : Tree :=
  .number { negative := false, whole := (Text.decimal n).map Text.digitValue }

/-- The natural number that a value is. -/
def Tree.natural? : Tree → Option Nat
  | .number n =>
    if n.negative || n.fraction != [] || n.exponent.isSome then none
    else some (Text.ofDigits 10 n.whole)
  | _ => none

lemma natural?_natural (n : Nat) : (natural n).natural? = some n := by
  simp [natural, Tree.natural?, Text.ofDigits_decimal]

lemma digits_decimal (n : Nat) {c : Char} (hdigit : c.isDigit = false) (rest : Text) :
    digits (Text.decimal n ++ c :: rest) =
      ((Text.decimal n).map Text.digitValue, c :: rest) := by
  have hall : ∀ d ∈ Text.decimal n, d.isDigit = true := fun d => Text.isDigit_of_mem_decimal
  simp [digits, List.takeWhile_append_of_pos hall, List.dropWhile_append_of_pos hall, hdigit,
    Text.filterMap_digit? hall]

lemma exponent?_cons {c : Char} (hmark : c ∉ ['.', 'e', 'E']) (rest : Text) :
    exponent? (c :: rest) = some (none, c :: rest) := by
  simp only [List.mem_cons, List.not_mem_nil, or_false, not_or] at hmark
  simp [exponent?, hmark]

/-- A number that is nothing but digits. -/
lemma numeral?_of_digits {t rest : Text} {ds : List Nat} {c : Char} (hsign : t.head? ≠ some '-')
    (hdigits : digits t = (ds, c :: rest)) (hne : ds ≠ [])
    (hzero : ds.head? = some 0 → ds.length = 1) (hmark : c ∉ ['.', 'e', 'E']) :
    numeral? t = some ({ negative := false, whole := ds }, c :: rest) := by
  have hexponent := exponent?_cons hmark rest
  have hpoint : c ≠ '.' := by rintro rfl; simp at hmark
  have hone : ¬ (ds.head? = some 0 ∧ 1 < ds.length) := by
    rintro ⟨hhead, hlt⟩
    rw [hzero hhead] at hlt
    omega
  unfold numeral?
  split
  next negative after hafter =>
    -- without a sign all of the text is left
    obtain ⟨rfl, rfl⟩ : false = negative ∧ t = after := by
      split at hafter
      · simp at hsign
      · exact Prod.mk.inj hafter
    simp [hdigits, hne, hone, hexponent, hpoint]

/-- The digits of a number, before a character that does not continue a number. -/
lemma begins_natural (n : Nat) {c : Char} (hdigit : c.isDigit = false)
    (hmark : c ∉ ['.', 'e', 'E']) (rest : Text) :
    Begins (Text.decimal n ++ c :: rest) (natural n) (c :: rest) := by
  obtain ⟨d, ds, hd⟩ := List.exists_cons_of_ne_nil (Text.decimal_ne_nil n)
  have hfirst : d.isDigit = true := Text.isDigit_of_mem_decimal (n := n) (by simp [hd])
  have hskip : skip (Text.decimal n ++ c :: rest) = Text.decimal n ++ c :: rest := by
    -- a digit is no blank
    have hblank : ∀ b ∈ [' ', '\t', '\n', '\r'], d ≠ b := by
      have hnone : ∀ b ∈ [' ', '\t', '\n', '\r'], b.isDigit = false := by simp
      rintro b hb rfl
      simp [hnone d hb] at hfirst
    simp only [List.mem_cons, List.not_mem_nil, or_false, forall_eq_or_imp, forall_eq] at hblank
    simp [hd, skip, hblank]
  have hsign : (Text.decimal n ++ c :: rest).head? ≠ some '-' := by
    rw [hd, List.cons_append, List.head?_cons]
    rintro ⟨⟩
    exact absurd hfirst (by decide)
  apply Begins.number
  rw [hskip]
  exact numeral?_of_digits hsign (digits_decimal n hdigit rest)
    (by simp [Text.decimal_ne_nil])
    (fun hhead => by rw [List.length_map, Text.length_decimal_of_head? hhead]) hmark

end LineSearch.Data.Json
