/-
# Reading UTF-8

Bytes are read as UTF-8.  What is no UTF-8 does not stop the reading: every longest stretch of bytes
that begins like a character and cannot go on becomes one replacement character.
-/
import LineSearch.Text.Basic

namespace LineSearch.Text.Utf8

/-- The character that stands for what cannot be read. -/
def replacement : Char := '\ufffd'

/-- A character of which some bytes have been read: the bits so far, and the bounds of each byte
that is still to come. -/
structure Pending where
  bits : Nat
  bounds : List (Nat × Nat)

/-- The bounds of a byte that continues a character. -/
def continuation : Nat × Nat := (0x80, 0xBF)

/-- What a first byte begins: a whole character, a character of several bytes, or nothing.  The
second byte is bounded more closely where the character would otherwise be a surrogate, too large,
or written with too many bytes. -/
def start (b : Nat) : Char ⊕ Pending :=
  if b < 0x80 then .inl (Char.ofNat b)
  else if 0xC2 ≤ b && b ≤ 0xDF then .inr ⟨b % 0x20, [continuation]⟩
  else if b == 0xE0 then .inr ⟨b % 0x10, [(0xA0, 0xBF), continuation]⟩
  else if b == 0xED then .inr ⟨b % 0x10, [(0x80, 0x9F), continuation]⟩
  else if 0xE1 ≤ b && b ≤ 0xEF then .inr ⟨b % 0x10, [continuation, continuation]⟩
  else if b == 0xF0 then .inr ⟨b % 0x08, [(0x90, 0xBF), continuation, continuation]⟩
  else if b == 0xF4 then .inr ⟨b % 0x08, [(0x80, 0x8F), continuation, continuation]⟩
  else if 0xF1 ≤ b && b ≤ 0xF3 then .inr ⟨b % 0x08, [continuation, continuation, continuation]⟩
  else .inl replacement

/-- Reads the rest of some bytes, a character having been begun or not. -/
def decodeFrom : Option Pending → List Nat → Text
  | none, [] => []
  | some _, [] => [replacement]
  | none, b :: rest => afresh b fun p => decodeFrom p rest
  | some p, b :: rest =>
    match p.bounds with
    | (lo, hi) :: more =>
      if lo ≤ b && b ≤ hi then
        let bits := p.bits * 0x40 + b % 0x40
        if more.isEmpty then Char.ofNat bits :: decodeFrom none rest
        else decodeFrom (some ⟨bits, more⟩) rest
      else replacement :: afresh b fun p => decodeFrom p rest
    | [] => afresh b fun p => decodeFrom p rest
where
  afresh (b : Nat) (further : Option Pending → Text) : Text :=
    match start b with
    | .inl c => c :: further none
    | .inr p => further (some p)

/-- The text that some bytes hold. -/
def decode (bytes : List UInt8) : Text := decodeFrom none (bytes.map UInt8.toNat)

end LineSearch.Text.Utf8
