/-
# Quoted texts

A text or a character between quotation marks.

In messages every character can be seen (`quoted`).  The quotation mark itself, the backslash and
the common controls are written with a backslash; characters that cannot be seen on their own are
written as `\u` with their number in braces.

In JSON (`jsonString`) the quotation mark, the backslash and the control characters are escaped, and
everything else stands as it is.
-/
import LineSearch.Text.Basic
import LineSearch.Text.Category

namespace LineSearch.Text

/-- The characters that can be written as they are: all but controls, format characters, private
and unassigned code points, and separators other than the space. -/
def isPrintable (c : Char) : Bool :=
  c == ' '
    || !(Category.hasAny [.cc, .cf, .cs, .co, .zl, .zp, .zs] c || Category.isUnassigned c)

/-- The lower-case hexadecimal digits of a number. -/
def hexDigits (n : Nat) : Text := Nat.toDigits 16 n

/-- One character between the quotation marks `quote`. -/
def quoteChar (quote : Char) (c : Char) : Text :=
  if c == '\x00' then ['\\', '0']
  else if c == '\t' then ['\\', 't']
  else if c == '\r' then ['\\', 'r']
  else if c == '\n' then ['\\', 'n']
  else if c == '\\' || c == quote then ['\\', c]
  else if isGraphemeExtend c || !isPrintable c then
    ['\\', 'u', '{'] ++ hexDigits c.toNat ++ ['}']
  else [c]

/-- A text in double quotation marks. -/
def quoted (t : Text) : Text := ['"'] ++ t.flatMap (quoteChar '"') ++ ['"']

/-- A character in single quotation marks. -/
def quotedChar (c : Char) : Text := ['\''] ++ quoteChar '\'' c ++ ['\'']

/-! ## Texts in JSON -/

/-- A character inside a JSON string.  Of the controls, five have a letter of their own; the others
are written with four hexadecimal digits. -/
def jsonChar (c : Char) : Text :=
  if c == '"' || c == '\\' then ['\\', c]
  else if c == '\x08' then ['\\', 'b']
  else if c == '\x0c' then ['\\', 'f']
  else if c == '\n' then ['\\', 'n']
  else if c == '\r' then ['\\', 'r']
  else if c == '\t' then ['\\', 't']
  else if c.toNat < 0x20 then
    ['\\', 'u', '0', '0'] ++ (if c.toNat < 0x10 then ['0'] else []) ++ hexDigits c.toNat
  else [c]

/-- A text as a JSON string. -/
def jsonString (t : Text) : Text := ['"'] ++ t.flatMap jsonChar ++ ['"']

end LineSearch.Text
