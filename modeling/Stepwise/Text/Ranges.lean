/-!
# Code point ranges

A character property that no formula gives is a table: an ascending list of code point ranges,
ends included.  `inRanges` looks a code point up and stops at the first range that starts
beyond it.
-/

namespace Stepwise

/-- The code point `n` lies in one of the ascending ranges `rs`, ends included. -/
def inRanges (n : Nat) : List (Nat × Nat) → Bool
  | [] => false
  | (first, last) :: rs => first ≤ n && (n ≤ last || inRanges n rs)

end Stepwise
