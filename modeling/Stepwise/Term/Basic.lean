/-!
# Terms

Terms of the untyped lambda calculus with named variables.  A name may be any string; only the
names that reading produces are identifiers.  The printed form puts parentheses around every
application and none elsewhere, so it shows the whole structure of the term.
-/

namespace Stepwise

/-- A term of the untyped lambda calculus. -/
inductive Term where
  /-- An occurrence of a variable. -/
  | var (name : String)
  /-- An abstraction `λname.body`. -/
  | abs (name : String) (body : Term)
  /-- An application `(left right)`. -/
  | app (left right : Term)
deriving DecidableEq, Inhabited

namespace Term

/-- The characters of the printed form, with `rest` after them. -/
def charsBefore : Term → List Char → List Char
  | var name, rest => name.toList ++ rest
  | abs name body, rest => 'λ' :: (name.toList ++ '.' :: body.charsBefore rest)
  | app left right, rest => '(' :: left.charsBefore (' ' :: right.charsBefore (')' :: rest))

/-- The characters of the printed form. -/
def chars (t : Term) : List Char := t.charsBefore []

theorem charsBefore_eq (t : Term) (rest : List Char) : t.charsBefore rest = t.chars ++ rest := by
  unfold chars
  induction t generalizing rest with
  | var name => simp [charsBefore]
  | abs name body ih => simp only [charsBefore, List.append_assoc, List.cons_append]; rw [ih]
  | app left right ihl ihr =>
    simp only [charsBefore]
    rw [ihl, ihr, ihl (' ' :: right.charsBefore [')']), ihr [')']]
    simp

@[simp]
theorem chars_var (name : String) : (var name).chars = name.toList := by
  simp [chars, charsBefore]

@[simp]
theorem chars_abs (name : String) (body : Term) :
    (abs name body).chars = 'λ' :: (name.toList ++ '.' :: body.chars) := rfl

@[simp]
theorem chars_app (left right : Term) :
    (app left right).chars = '(' :: (left.chars ++ ' ' :: (right.chars ++ [')'])) := by
  rw [chars, charsBefore, charsBefore_eq left, charsBefore_eq right]

/-- The printed form. -/
def text (t : Term) : String := String.ofList t.chars

/-- The number of nodes. -/
def size : Term → Nat
  | var _ => 1
  | abs _ body => 1 + body.size
  | app left right => 1 + left.size + right.size

end Term

end Stepwise
