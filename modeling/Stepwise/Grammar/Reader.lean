import Stepwise.Grammar.Token
import Stepwise.Term.Basic

/-!
# Reading terms from tokens

The grammar of the textual form is

    Term    ::= let Binding { Binding } in Term | Unit { Unit }
    Binding ::= identifier = Term ;
    Unit    ::= identifier | ( Term ) | λ identifier . Unit

Juxtaposition associates to the left, and the body of a binder is a single unit, which is what the
printed form of terms needs.  A `let` with bindings `x₁ = M₁; … xₙ = Mₙ;` and body `B` stands for
`((λx₁. … ((λxₙ.B) Mₙ) …) M₁)`.

Each reader takes the tokens that are left.  On success it gives back what it read and the tokens
after it, which are fewer; on failure, the tokens from the offending one on.
-/

namespace Stepwise

namespace Reader

/-- Where reading stopped and what it asked for there: a token of one kind, or nothing in
particular. -/
structure Stop where
  wanted : Option TokenKind
  rest : List Token
deriving DecidableEq

/-- What reading a part of the tokens `ts` gives: a value with the tokens that follow it, or the
place where it stopped. -/
abbrev Reading (α : Type) (ts : List Token) :=
  Except Stop { p : α × List Token // p.2.length < ts.length }

/-- Reads one token of the given kind. -/
def expect (kind : TokenKind) (ts : List Token) :
    Except Stop { rest : List Token // rest.length < ts.length } :=
  match ts with
  | [] => .error ⟨some kind, []⟩
  | t :: rest =>
    if t.kind = kind then .ok ⟨rest, by simp⟩ else .error ⟨some kind, t :: rest⟩

/-- Reads an identifier. -/
def expectName (ts : List Token) : Reading String ts :=
  match ts with
  | .ident name :: rest => .ok ⟨(name, rest), by simp⟩
  | ts => .error ⟨some .identifier, ts⟩

/-- The meaning of a `let` that binds the names `bound` around `body`. -/
def letTerm (bound : List (String × Term)) (body : Term) : Term :=
  bound.foldr (fun b t => .app (.abs b.1 t) b.2) body

mutual

/-- Reads a term. -/
def term (ts : List Token) : Reading Term ts :=
  match ts with
  | .letWord :: rest => do
    let ⟨(bound, rest₁), h₁⟩ ← bindings rest
    let ⟨(body, rest₂), h₂⟩ ← term rest₁
    return ⟨(letTerm bound body, rest₂), Nat.lt_succ_of_lt (Nat.lt_trans h₂ h₁)⟩
  | ts => do
    let ⟨(first, rest₁), h₁⟩ ← unit ts
    let ⟨(whole, rest₂), h₂⟩ ← arguments first rest₁
    return ⟨(whole, rest₂), Nat.lt_of_le_of_lt h₂ h₁⟩
termination_by 3 * ts.length + 2
decreasing_by all_goals grind

/-- Reads the units that follow `head` and applies it to them, one after the other. -/
def arguments (head : Term) (ts : List Token) :
    Except Stop { p : Term × List Token // p.2.length ≤ ts.length } :=
  match ts with
  | [] => .ok ⟨(head, []), by simp⟩
  | t :: rest =>
    if t.startsUnit then do
      let ⟨(argument, rest₁), h₁⟩ ← unit (t :: rest)
      let ⟨(whole, rest₂), h₂⟩ ← arguments (.app head argument) rest₁
      return ⟨(whole, rest₂), Nat.le_trans h₂ (Nat.le_of_lt h₁)⟩
    else .ok ⟨(head, t :: rest), by simp⟩
termination_by 3 * ts.length + 1
decreasing_by all_goals grind

/-- Reads a unit. -/
def unit (ts : List Token) : Reading Term ts :=
  match ts with
  | .ident name :: rest => .ok ⟨(.var name, rest), by simp⟩
  | .leftParen :: rest => do
    let ⟨(inner, rest₁), h₁⟩ ← term rest
    let ⟨rest₂, h₂⟩ ← expect .rightParen rest₁
    return ⟨(inner, rest₂), Nat.lt_succ_of_lt (Nat.lt_trans h₂ h₁)⟩
  | .lambda :: rest => do
    let ⟨(name, rest₁), h₁⟩ ← expectName rest
    let ⟨rest₂, h₂⟩ ← expect .dot rest₁
    let ⟨(body, rest₃), h₃⟩ ← unit rest₂
    return ⟨(.abs name body, rest₃), Nat.lt_succ_of_lt (Nat.lt_trans h₃ (Nat.lt_trans h₂ h₁))⟩
  | ts => .error ⟨none, ts⟩
termination_by 3 * ts.length
decreasing_by all_goals grind

/-- Reads the bindings of a `let` and the word `in` after them. -/
def bindings (ts : List Token) : Reading (List (String × Term)) ts := do
  let ⟨(name, rest₁), h₁⟩ ← expectName ts
  let ⟨rest₂, h₂⟩ ← expect .equals rest₁
  let ⟨(value, rest₃), h₃⟩ ← term rest₂
  let ⟨rest₄, h₄⟩ ← expect .semicolon rest₃
  match rest₄, h₄ with
  | .inWord :: rest₅, h₄ => return ⟨([(name, value)], rest₅), by grind⟩
  | rest₄, h₄ => do
    let ⟨(more, rest₅), h₅⟩ ← bindings rest₄
    return ⟨((name, value) :: more, rest₅), by grind⟩
termination_by 3 * ts.length
decreasing_by all_goals grind

end

/-- Reads a term that takes up all the tokens. -/
def wholeTerm (ts : List Token) : Except Stop Term := do
  let ⟨(t, rest), _⟩ ← term ts
  match rest with
  | [] => return t
  | rest => throw ⟨none, rest⟩

end Reader

end Stepwise
