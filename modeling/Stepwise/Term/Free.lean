import Stepwise.Term.Basic

/-!
# Free names

The free occurrences of a term from left to right, one entry for each, so that a name may stand in
the list more than once.
-/

namespace Stepwise

namespace Term

/-- The names of the free occurrences, in the order in which they are printed. -/
def freeNames : Term → List String
  | var name => [name]
  | abs name body => body.freeNames.filter (· ≠ name)
  | app left right => left.freeNames ++ right.freeNames

/-- Whether `name` occurs free. -/
def isFree (name : String) (t : Term) : Bool := t.freeNames.contains name

end Term

end Stepwise
