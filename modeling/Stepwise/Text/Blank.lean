import Stepwise.Text.Ranges

/-!
# Blank characters

The characters that separate tokens and that trimming removes: the `White_Space` property.
-/

namespace Stepwise

/-- The ranges of the white space characters. -/
def blankRanges : List (Nat × Nat) :=
  [(0x9, 0xD), (0x20, 0x20), (0x85, 0x85), (0xA0, 0xA0), (0x1680, 0x1680), (0x2000, 0x200A),
   (0x2028, 0x2029), (0x202F, 0x202F), (0x205F, 0x205F), (0x3000, 0x3000)]

/-- A white space character. -/
def isBlank (c : Char) : Bool := inRanges c.toNat blankRanges

/-- `items` without the run at either end whose members satisfy `p`. -/
def trimBy {α : Type} (p : α → Bool) (items : List α) : List α :=
  ((items.dropWhile p).reverse.dropWhile p).reverse

/-- The characters without leading and trailing blanks. -/
def trimBlanks (cs : List Char) : List Char := trimBy isBlank cs

end Stepwise
