import Stepwise.Text.Quoted

/-!
# Strategies

The two ways to choose the redex of a single step, and the names by which they are asked for.
-/

namespace Stepwise

/-- Where a step looks for its redex. -/
inductive Strategy where
  /-- At the root only. -/
  | callByName
  /-- At the root, or below the leading binders. -/
  | normalOrder
deriving DecidableEq

namespace Strategy

/-- The full name. -/
def name : Strategy → String
  | callByName => "call-by-name"
  | normalOrder => "normal-order"

/-- The full names of all strategies, sorted. -/
def names : List String := [name callByName, name normalOrder]

/-- The strategy with the given full or short name. -/
def ofName? : String → Option Strategy
  | "call-by-name" | "cbn" | "name" => some callByName
  | "normal-order" | "normal" | "no" => some normalOrder
  | _ => none

/-- The complaint about a name that no strategy has. -/
def unknownMessage (name : Text) : String :=
  "unknown reduction strategy " ++ name.quoted ++ " (want one of [" ++
    " ".intercalate names ++ "])"

end Strategy

end Stepwise
