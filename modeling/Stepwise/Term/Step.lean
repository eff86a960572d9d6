import Stepwise.Term.Strategy
import Stepwise.Term.Substitution

/-!
# One step of reduction

A step contracts at most one redex and never searches the head of an application.  An application
whose head is no abstraction is stuck, and the step fails with that application.
-/

namespace Stepwise

/-- A stuck application `(left right)`: `left` is no abstraction. -/
structure Stuck where
  left : Term
  right : Term
deriving DecidableEq

/-- The stuck application as a term. -/
def Stuck.term (s : Stuck) : Term := .app s.left s.right

/-- The complaint about a stuck application. -/
def Stuck.message (s : Stuck) : String := "cannot beta reduce: " ++ s.term.text

namespace Term

/-- Contracts the application `(left right)` if it is a redex. -/
def contract (left right : Term) : Except Stuck Term :=
  match left with
  | .abs name body => .ok (body.subst name right)
  | left => .error ⟨left, right⟩

/-- One step at the root.  Variables and abstractions are left as they are. -/
def callByName : Term → Except Stuck Term
  | app left right => contract left right
  | t => .ok t

/-- One step at the root, or below the leading binders. -/
def normalOrder : Term → Except Stuck Term
  | var name => .ok (var name)
  | abs name body => (normalOrder body).map (abs name)
  | app left right => contract left right

end Term

/-- One step of the strategy. -/
def Strategy.step : Strategy → Term → Except Stuck Term
  | .callByName => Term.callByName
  | .normalOrder => Term.normalOrder

end Stepwise
