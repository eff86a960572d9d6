import Stepwise.Grammar.Cursor
import Stepwise.Term.Step

/-!
# Checking golden steps

A golden case of a single step is given by texts.  `Fixture.stepHolds` asks that a step of the
named strategy lead from one text to the other, names compared exactly; `Fixture.stuckHolds` asks
that the step be stuck.  Blanks around a text do not count.
-/

namespace Stepwise

namespace Fixture

/-- The term that a fixture holds. -/
def term? (source : String) : Option Term :=
  (Term.parseChars (trimBlanks source.toList)).toOption

/-- One step of the named strategy leads from `input` to `output`. -/
def stepHolds (strategy input output : String) : Bool :=
  match Strategy.ofName? strategy, term? input, term? output with
  | some s, some before, some after =>
    match s.step before with
    | .ok t => t = after
    | .error _ => false
  | _, _, _ => false

/-- One step of the named strategy on `input` is stuck. -/
def stuckHolds (strategy input : String) : Bool :=
  match Strategy.ofName? strategy, term? input with
  | some s, some t =>
    match s.step t with
    | .ok _ => false
    | .error _ => true
  | _, _ => false

end Fixture

end Stepwise
