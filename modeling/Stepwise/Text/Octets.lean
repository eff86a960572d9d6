import Stepwise.Text.Glyph

/-!
# Octets of characters

The octets that UTF-8 spends on a character, and those that decoded text stands for.
-/

namespace Stepwise

/-- The octets of a character in UTF-8. -/
def octets (c : Char) : List Nat :=
  let n := c.toNat
  if n < 0x80 then [n]
  else if n < 0x800 then [0xC0 + n / 0x40, 0x80 + n % 0x40]
  else if n < 0x10000 then [0xE0 + n / 0x1000, 0x80 + n / 0x40 % 0x40, 0x80 + n % 0x40]
  else [0xF0 + n / 0x40000, 0x80 + n / 0x1000 % 0x40, 0x80 + n / 0x40 % 0x40, 0x80 + n % 0x40]

/-- The octets that a glyph was decoded from. -/
def Glyph.octets : Glyph → List Nat
  | .char c => Stepwise.octets c
  | .stray b => [b.toNat]

/-- The octets that text was decoded from. -/
def Text.octets (t : Text) : List Nat := t.flatMap Glyph.octets

end Stepwise
