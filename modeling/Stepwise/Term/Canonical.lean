import Stepwise.Term.Basic

/-!
# Canonical names

The canonical form of a term numbers its names in the order in which variables first occur, from
left to right.  One numbering serves the whole term.  A binder comes after its body: it takes the
number of its name if the name has one by then, and is written `_` otherwise.
-/

namespace Stepwise

/-- The name of a binder whose own name has no number. -/
def unusedName : String := "_"

/-- The name that stands for the number `n`. -/
def indexName (n : Nat) : String := String.ofList (Nat.toDigits 10 n)

namespace Term

/-- The names that have occurred, in order of first occurrence, after the occurrence of `name`. -/
def noteName (seen : List String) (name : String) : List String :=
  if seen.contains name then seen else seen ++ [name]

/-- The canonical name of a binder when the names `seen` have occurred. -/
def binderName (seen : List String) (name : String) : String :=
  match seen.idxOf? name with
  | some index => indexName index
  | none => unusedName

/-- Renames the term when the names `seen` have occurred before it, and tells which have occurred
after it. -/
def canonicalFrom (seen : List String) : Term → Term × List String
  | var name =>
    let seen := noteName seen name
    (var (indexName (seen.idxOf name)), seen)
  | abs name body =>
    let (body, seen) := canonicalFrom seen body
    (abs (binderName seen name) body, seen)
  | app left right =>
    let (left, seen) := canonicalFrom seen left
    let (right, seen) := canonicalFrom seen right
    (app left right, seen)

/-- The canonical form. -/
def canonical (t : Term) : Term := (canonicalFrom [] t).1

/-- Whether two terms have the same canonical form. -/
def sameCanonical (a b : Term) : Bool := a.canonical = b.canonical

end Term

end Stepwise
