import Stepwise.Draft.Basic
import Stepwise.Grammar.Cursor

/-!
# Reading drafts

The readers of `Stepwise/Grammar/Reader.lean` give back a term or tell where they stopped.  A reader
of drafts always gives back a draft: beside a stop it is the missing one, and nothing but the order
in which things are looked at keeps a missing part out of what is put together.  So a reader looks
at what stands beside a draft before it takes the draft.
-/

namespace Stepwise

namespace Draft

/-- What a reader gives back: a draft, and beside it the tokens that follow, which have the property
`P`, or the place where the reader stopped. -/
structure Exit (P : List Token → Prop) where
  draft : Draft
  beside : Except Reader.Stop { rest : List Token // P rest }

/-- Goes on with what was read, or gives back the missing draft beside the stop. -/
def onward {α : Type} {P : List Token → Prop} (r : Except Reader.Stop α) (next : α → Exit P) :
    Exit P :=
  match r with
  | .error stop => ⟨hole, .error stop⟩
  | .ok a => next a

/-- The meaning of a `let` that binds the names `bound` around `body`. -/
def letDraft (bound : List (String × Draft)) (body : Draft) : Draft :=
  bound.foldr (fun b d => app (abs b.1 d) b.2) body

namespace Reader

open Stepwise.Reader

mutual

/-- Reads a term. -/
def term (ts : List Token) : Exit fun rest => rest.length < ts.length :=
  match ts with
  | .letWord :: rest =>
    onward (bindings rest) fun ⟨(bound, rest₁), h₁⟩ =>
      let body := term rest₁
      onward body.beside fun ⟨rest₂, h₂⟩ =>
        ⟨letDraft bound body.draft, .ok ⟨rest₂, Nat.lt_succ_of_lt (Nat.lt_trans h₂ h₁)⟩⟩
  | ts =>
    let first := unit ts
    onward first.beside fun ⟨rest₁, h₁⟩ =>
      let whole := arguments first.draft rest₁
      onward whole.beside fun ⟨rest₂, h₂⟩ =>
        ⟨whole.draft, .ok ⟨rest₂, Nat.lt_of_le_of_lt h₂ h₁⟩⟩
termination_by 3 * ts.length + 2
decreasing_by all_goals grind

/-- Reads the units that follow `head` and applies it to them, one after the other. -/
def arguments (head : Draft) (ts : List Token) : Exit fun rest => rest.length ≤ ts.length :=
  match ts with
  | [] => ⟨head, .ok ⟨[], by simp⟩⟩
  | t :: rest =>
    if t.startsUnit then
      let argument := unit (t :: rest)
      onward argument.beside fun ⟨rest₁, h₁⟩ =>
        let whole := arguments (app head argument.draft) rest₁
        onward whole.beside fun ⟨rest₂, h₂⟩ =>
          ⟨whole.draft, .ok ⟨rest₂, Nat.le_trans h₂ (Nat.le_of_lt h₁)⟩⟩
    else ⟨head, .ok ⟨t :: rest, by simp⟩⟩
termination_by 3 * ts.length + 1
decreasing_by all_goals grind

/-- Reads a unit. -/
def unit (ts : List Token) : Exit fun rest => rest.length < ts.length :=
  match ts with
  | .ident name :: rest => ⟨var name, .ok ⟨rest, by simp⟩⟩
  | .leftParen :: rest =>
    let inner := term rest
    onward inner.beside fun ⟨rest₁, h₁⟩ =>
      onward (expect .rightParen rest₁) fun ⟨rest₂, h₂⟩ =>
        ⟨inner.draft, .ok ⟨rest₂, Nat.lt_succ_of_lt (Nat.lt_trans h₂ h₁)⟩⟩
  | .lambda :: rest =>
    onward (expectName rest) fun ⟨(name, rest₁), h₁⟩ =>
      onward (expect .dot rest₁) fun ⟨rest₂, h₂⟩ =>
        let body := unit rest₂
        onward body.beside fun ⟨rest₃, h₃⟩ =>
          ⟨abs name body.draft,
            .ok ⟨rest₃, Nat.lt_succ_of_lt (Nat.lt_trans h₃ (Nat.lt_trans h₂ h₁))⟩⟩
  | ts => ⟨hole, .error ⟨none, ts⟩⟩
termination_by 3 * ts.length
decreasing_by all_goals grind

/-- Reads the bindings of a `let` and the word `in` after them. -/
def bindings (ts : List Token) : Reading (List (String × Draft)) ts := do
  let ⟨(name, rest₁), h₁⟩ ← expectName ts
  let ⟨rest₂, h₂⟩ ← expect .equals rest₁
  let value := term rest₂
  let ⟨rest₃, h₃⟩ ← value.beside
  let ⟨rest₄, h₄⟩ ← expect .semicolon rest₃
  have fewer : rest₄.length < ts.length :=
    Nat.lt_trans h₄ (Nat.lt_trans h₃ (Nat.lt_trans h₂ h₁))
  match rest₄, fewer with
  | .inWord :: rest₅, fewer =>
    return ⟨([(name, value.draft)], rest₅), Nat.lt_of_succ_lt fewer⟩
  | rest₄, fewer => do
    let ⟨(more, rest₅), h₅⟩ ← bindings rest₄
    return ⟨((name, value.draft) :: more, rest₅), Nat.lt_trans h₅ fewer⟩
termination_by 3 * ts.length
decreasing_by all_goals grind

end

/-- Reads a term that takes up all the tokens. -/
def wholeTerm (ts : List Token) : Draft × Option Stop :=
  let whole := term ts
  match whole.beside with
  | .error stop => (hole, some stop)
  | .ok ⟨[], _⟩ => (whole.draft, none)
  | .ok ⟨rest, _⟩ => (hole, some ⟨none, rest⟩)

end Reader

/-- Reads a source as one term.  Beside the complaint about a source stands the missing draft. -/
def parse (source : String) : Draft × Option SyntaxError :=
  let c := Cursor.ofChars source.toList
  match Reader.wholeTerm c.tokens with
  | (d, none) => (d, none)
  | (d, some stop) => (d, some ((c.leaving stop.rest.length).refusal stop.wanted))

end Draft

end Stepwise
