/-!
# Reports

What a run of a program leaves behind for whoever called it.
-/

namespace Stepwise

/-- The exit code of a run and what it wrote. -/
structure Report where
  exit : Nat
  stdout : String
  stderr : String
deriving DecidableEq

end Stepwise
