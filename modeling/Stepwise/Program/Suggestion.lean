import Stepwise.Text.LowerCase
import Stepwise.Text.Octets

/-!
# Suggestions for mistyped words

A word is close to a name if few edits lead from one to the other, or if it is the beginning of the
name.  Case does not count, and an edit inserts, deletes or replaces one octet.
-/

namespace Stepwise

/-- Continues a row of edit distances for one more octet `a`: `left` is the distance just computed,
`corner` the one above it, and `above` the rest of the row above, one for each octet of `target`. -/
def distanceCells (a : Nat) (left corner : Nat) : (target above : List Nat) → List Nat
  | b :: target, up :: above =>
    let cell := if a = b then corner else 1 + min corner (min left up)
    cell :: distanceCells a cell up target above
  | _, _ => []

/-- The row of distances for one more octet, from the row before it. -/
def distanceRow (target : List Nat) (row : List Nat) (a : Nat) : List Nat :=
  match row with
  | [] => []
  | corner :: above => (corner + 1) :: distanceCells a (corner + 1) corner target above

/-- The least number of insertions, deletions and replacements that lead from `source` to
`target`. -/
def editDistance (source target : List Nat) : Nat :=
  (source.foldl (distanceRow target) (List.range (target.length + 1))).getLastD 0

/-- The octets of a word in small letters. -/
def wordOctets (word : String) : List Nat := (lowerCase word).toList.flatMap octets

/-- The most edits that still make a word close to a name. -/
def maxEdits : Nat := 2

/-- Whether a typed word is close to a name. -/
def isCloseTo (typed name : String) : Bool :=
  editDistance (wordOctets typed) (wordOctets name) ≤ maxEdits ||
    (wordOctets typed).isPrefixOf (wordOctets name)

end Stepwise
