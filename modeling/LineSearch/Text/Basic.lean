/-
# Texts as lists of characters

A text is the list of its characters, so that columns and lengths count characters and every
function on texts is a function on lists.  This file holds the two operations that the rest of
the library shares: cutting a text at separators, and gluing pieces together.

`splitWhere_append_cons` is the law of the cut: a separator divides the pieces before it from the
pieces after it.
-/

namespace LineSearch

/-- A text: its characters in order. -/
abbrev Text := List Char

namespace Text

/-- The pieces between the characters that satisfy `p`.  There is one piece more than there are
such characters; pieces may be empty. -/
def splitWhere (p : Char → Bool) : Text → List Text
  | [] => [[]]
  | c :: rest =>
    if p c then [] :: splitWhere p rest
    else
      match splitWhere p rest with
      | [] => [[c]]
      | piece :: pieces => (c :: piece) :: pieces

@[simp] theorem splitWhere_nil (p : Char → Bool) : splitWhere p [] = [[]] := rfl

theorem splitWhere_ne_nil (p : Char → Bool) (t : Text) : splitWhere p t ≠ [] := by
  cases t with
  | nil => simp [splitWhere]
  | cons c rest =>
    unfold splitWhere
    split
    · simp
    · split <;> simp

/-- A separator divides the pieces of what stands before it from those of what follows. -/
theorem splitWhere_append_cons (p : Char → Bool) (a b : Text) {c : Char} (h : p c = true) :
    splitWhere p (a ++ c :: b) = splitWhere p a ++ splitWhere p b := by
  induction a with
  | nil => simp [splitWhere, h]
  | cons d rest ih =>
    by_cases hd : p d = true
    · simp [splitWhere, hd, ih]
    · obtain ⟨piece, pieces, hp⟩ := List.exists_cons_of_ne_nil (splitWhere_ne_nil p rest)
      simp [splitWhere, hd, ih, hp]

/-- The pieces in order, with `separator` between neighbours. -/
def join (separator : Text) : List Text → Text
  | [] => []
  | [piece] => piece
  | piece :: next :: pieces => piece ++ separator ++ join separator (next :: pieces)

/-- The last index at which `c` occurs cuts the text in two. -/
def splitAtLast (c : Char) : Text → Option (Text × Text)
  | [] => none
  | d :: rest =>
    match splitAtLast c rest with
    | some (before, after) => some (d :: before, after)
    | none => if d = c then some ([], rest) else none

end Text

end LineSearch
