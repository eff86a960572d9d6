import Stepwise.Draft.Basic
import Stepwise.Term.Canonical
import Stepwise.Term.Step

/-!
# Operations on unfinished terms

Size, free names, substitution, steps and canonical forms of drafts.  On a draft without holes each
of them does what the operation on terms does; on others it fails where it must look at a hole.
-/

namespace Stepwise

namespace Draft

/-- The number of nodes. -/
def size : Draft → Except Fault Nat
  | hole => .error .gap
  | var _ => .ok 1
  | abs _ body => do return 1 + (← body.size)
  | app left right => do return 1 + (← left.size) + (← right.size)

/-- The names of the free occurrences, in the order in which they are printed. -/
def freeNames : Draft → Except Fault (List String)
  | hole => .error .gap
  | var name => .ok [name]
  | abs name body => do return (← body.freeNames).filter (· ≠ name)
  | app left right => do return (← left.freeNames) ++ (← right.freeNames)

/-- Whether `name` occurs free. -/
def isFree (name : String) (d : Draft) : Except Fault Bool := do
  return (← d.freeNames).contains name

/-- Substitution that leaves a binder as it is where it would capture a free name of the
replacement.  Whether it would is asked only at binders of another name than the variable's. -/
def subst (d : Draft) (name : String) (replacement : Draft) : Except Fault Draft :=
  match d with
  | hole => .error .gap
  | var x => .ok (if x = name then replacement else var x)
  | abs x body =>
    if x = name then .ok (abs x body)
    else do
      if ← isFree x replacement then return abs x body
      return abs x (← body.subst name replacement)
  | app left right => do
    return app (← left.subst name replacement) (← right.subst name replacement)

/-- Contracts the application `(left right)` if it is a redex; a missing head is no abstraction. -/
def contract (left right : Draft) : Except Fault Draft :=
  match left with
  | abs name body => body.subst name right
  | left => .error (.stuck left right)

/-- One step at the root. -/
def callByName : Draft → Except Fault Draft
  | hole => .error .gap
  | app left right => contract left right
  | d => .ok d

/-- One step at the root, or below the leading binders. -/
def normalOrder : Draft → Except Fault Draft
  | hole => .error .gap
  | var name => .ok (var name)
  | abs name body => do return abs name (← body.normalOrder)
  | app left right => contract left right

/-- One step of the strategy. -/
def step (strategy : Strategy) (d : Draft) : Except Fault Draft :=
  match strategy with
  | .callByName => d.callByName
  | .normalOrder => d.normalOrder

/-- One step of the strategy with the given name. -/
def stepNamed (strategy : String) (d : Draft) : Except Fault Draft :=
  match Strategy.ofName? strategy with
  | some s => d.step s
  | none => .error (.unknownStrategy strategy)

/-- Renames the draft when the names `seen` have occurred before it, and tells which have occurred
after it. -/
def canonicalFrom (seen : List String) : Draft → Except Fault (Draft × List String)
  | hole => .error .gap
  | var name =>
    let seen := Term.noteName seen name
    .ok (var (indexName (seen.idxOf name)), seen)
  | abs name body => do
    let (body, seen) ← body.canonicalFrom seen
    return (abs (Term.binderName seen name) body, seen)
  | app left right => do
    let (left, seen) ← left.canonicalFrom seen
    let (right, seen) ← right.canonicalFrom seen
    return (app left right, seen)

/-- The canonical form. -/
def canonical (d : Draft) : Except Fault Draft := do return (← d.canonicalFrom []).1

/-- Whether two drafts have the same canonical form. -/
def sameCanonical (a b : Draft) : Except Fault Bool := do
  return (← a.canonical) = (← b.canonical)

/-! ## Messages -/

/-- The complaint about the stuck application `(left right)`. -/
def stuckMessage (left right : Draft) : String :=
  "cannot beta reduce: " ++ String.ofList (app left right).chars

/-- The wording of a fault. -/
def Fault.message : Fault → String
  | gap => "Unknown term type <nil>"
  | blank => "runtime error"
  | malformed error => error.message
  | stuck left right => stuckMessage left right
  | unknownStrategy name => Strategy.unknownMessage (Text.ofString name)

end Draft

end Stepwise
