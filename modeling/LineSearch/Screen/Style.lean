/-
# Styles

How a character is drawn: its colours, where they are fixed, and its attributes.  A style can be
laid over another; then it decides what it fixes, and the attributes add up.
-/
import LineSearch.Screen.Color

namespace LineSearch.Screen

/-- The attributes of characters. -/
structure Attributes where
  bold : Bool := false
  dim : Bool := false
  italic : Bool := false
  underlined : Bool := false
  deriving DecidableEq, Repr

/-- All attributes of both. -/
def Attributes.union (a b : Attributes) : Attributes :=
  ⟨a.bold || b.bold, a.dim || b.dim, a.italic || b.italic, a.underlined || b.underlined⟩

/-- Colours and attributes; a colour that is `none` is left as it is. -/
structure Style where
  fg : Option Color := none
  bg : Option Color := none
  attributes : Attributes := {}
  deriving DecidableEq, Repr

/-- The style `top` laid over the style `s`. -/
def Style.patch (s top : Style) : Style :=
  { fg := top.fg.or s.fg
    bg := top.bg.or s.bg
    attributes := s.attributes.union top.attributes }

end LineSearch.Screen
