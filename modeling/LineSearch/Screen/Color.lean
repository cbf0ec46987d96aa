/-
# Colours

The colours of a terminal, and how they are written: sixteen by name, any by its red, green and
blue parts, and those of the large palette by number.

`Color.parse?` reads a colour.  A text that is no colour is passed over by its caller.  A text of
seven bytes after a number sign is cut into parts of two bytes, the first of which that is no number
ends the reading; a cut inside a character has no meaning, and is the one fault there is.
-/
import LineSearch.InputLine
import LineSearch.Text.Digit

namespace LineSearch.Screen

/-- A colour of the terminal; `reset` is the one that the terminal uses by itself. -/
inductive Color where
  | reset
  | black | red | green | yellow | blue | magenta | cyan | gray
  | darkGray | lightRed | lightGreen | lightYellow | lightBlue | lightMagenta | lightCyan | white
  | rgb (red green blue : Nat)
  | indexed (n : Nat)
  deriving DecidableEq, Repr

/-- A colour was to be cut inside a character. -/
inductive ColorFault where
  | cutInsideCharacter
  deriving DecidableEq, Repr

namespace Color

/-- The colours that have a name, some of them several. -/
def named? : String → Option Color
  | "black" => some black
  | "red" => some red
  | "green" => some green
  | "yellow" => some yellow
  | "blue" => some blue
  | "magenta" => some magenta
  | "cyan" => some cyan
  | "gray" | "grey" => some gray
  | "dark_gray" | "darkgray" | "dark_grey" | "darkgrey" => some darkGray
  | "light_red" => some lightRed
  | "light_green" => some lightGreen
  | "light_yellow" => some lightYellow
  | "light_blue" => some lightBlue
  | "light_magenta" => some lightMagenta
  | "light_cyan" | "aqua" => some lightCyan
  | "white" => some white
  | _ => none

/-- A number of at most one byte.  A plus sign may stand before it. -/
def byte? (base : Nat) (t : Text) : Option Nat :=
  let digits := match t with
    | '+' :: rest => rest
    | t => t
  (Text.number? base digits).filter (· < 256)

/-- The next two bytes of a text, and the rest. -/
def cutTwo (t : Text) : Except ColorFault (Text × Text) :=
  match t.splitAtByte? 2 with
  | some parts => .ok parts
  | none => .error .cutInsideCharacter

/-- The numbers that the next parts of two bytes hold; `none` as soon as one holds none. -/
def pairs : (count : Nat) → Text → Except ColorFault (Option (List Nat))
  | 0, _ => .ok (some [])
  | count + 1, t => do
    let (pair, rest) ← cutTwo t
    match byte? 16 pair with
    | none => return none
    | some n => return (← pairs count rest).map (n :: ·)

/-- Reads a colour; ASCII letters may be of either case. -/
def parse? (name : Text) : Except ColorFault (Option Color) :=
  let lowered : Text := name.map Char.toLower
  match named? (String.ofList lowered) with
  | some c => .ok (some c)
  | none =>
    match lowered with
    | '#' :: parts =>
      if lowered.byteLength = 7 then do
        match ← pairs 3 parts with
        | some [r, g, b] => return some (rgb r g b)
        | _ => return none
      else .ok none
    | _ =>
      if "indexed:".toList.isPrefixOf lowered then
        .ok ((byte? 10 (lowered.drop 8)).map indexed)
      else .ok none

end Color

end LineSearch.Screen
