import Mathlib.Control.Monad.Basic
import Stepwise.Grammar.Reader

/-!
# Readings without their bounds

The readers of `Stepwise/Grammar/Reader.lean` return what is left together with the proof that it
is shorter, which makes them terminate and makes equations between them hard to state.  `outcome`
forgets the bound.  Each reader is first given by one equation between outcomes; the inversions
`outcome_term_eq_ok`, `outcome_arguments_eq_ok`, `outcome_unit_eq_ok` and `outcome_bindings_eq_ok`
then say exactly when it succeeds, and no later proof opens a reader.
-/

namespace Stepwise

/-- A token that is spelt in one way only is told by its kind. -/
theorem Token.eq_of_kind_eq {t u : Token} (same : t.kind = u.kind)
    (fixed : u.kind ≠ .identifier ∧ u.kind ≠ .illegal) : t = u := by
  cases u <;> cases t <;> simp_all [Token.kind]

theorem Token.eq_of_startsUnit {t : Token} (starts : t.startsUnit = true) :
    (∃ name, t = .ident name) ∨ t = .leftParen ∨ t = .lambda := by
  cases t <;> simp_all [Token.startsUnit]

namespace Reader

/-! ## Outcomes -/

/-- What a reading gives, without the bound on what is left. -/
def outcome {β : Type} {P : β → Prop} (r : Except Stop { p : β // P p }) : Except Stop β :=
  r.map Subtype.val

theorem outcome_bind {α β : Type} {P : α → Prop} {Q : β → Prop}
    {r : Except Stop { a : α // P a }} {next : { a : α // P a } → Except Stop { b : β // Q b }}
    {after : α → Except Stop β} (agree : ∀ a, outcome (next a) = after a.1) :
    outcome (r >>= next) = outcome r >>= after := by
  cases r with
  | error stop => rfl
  | ok a => exact agree a

/-- The bound that `outcome` forgets still holds. -/
theorem length_lt_of_outcome {α : Type} {ts rest : List Token} {r : Reading α ts} {a : α}
    (read : outcome r = .ok (a, rest)) : rest.length < ts.length := by
  cases r with
  | error stop => cases read
  | ok p =>
    have same : p.1 = (a, rest) := Except.ok.inj read
    have shorter : p.1.2.length < ts.length := p.2
    rwa [same] at shorter

/-- A sequence of two readings succeeds if both do. -/
theorem bind_eq_ok {α β : Type} {r : Except Stop α} {next : α → Except Stop β} {b : β} :
    r >>= next = .ok b ↔ ∃ a, r = .ok a ∧ next a = .ok b := by
  cases r with
  | error stop =>
    constructor
    · intro both
      cases both
    · intro both
      obtain ⟨a, first, -⟩ := both
      cases first
  | ok a =>
    constructor
    · intro second
      exact ⟨a, rfl, second⟩
    · intro both
      obtain ⟨a', first, second⟩ := both
      cases first
      exact second

/-! ## The equation of each reader -/

theorem outcome_term_let (ts : List Token) :
    outcome (term (.letWord :: ts)) = (do
      let (bound, rest₁) ← outcome (bindings ts)
      let (body, rest₂) ← outcome (term rest₁)
      return (letTerm bound body, rest₂)) := by
  rw [term]
  refine outcome_bind ?_
  intro boundRead
  exact outcome_bind fun _ => rfl

theorem outcome_term_units {ts : List Token} (noLet : ∀ rest, ts ≠ .letWord :: rest) :
    outcome (term ts) = (do
      let (first, rest₁) ← outcome (unit ts)
      outcome (arguments first rest₁)) := by
  rw [term.eq_2 ts noLet]
  refine outcome_bind ?_
  intro unitRead
  dsimp only
  cases arguments unitRead.1.1 unitRead.1.2 <;> rfl

theorem outcome_arguments_start {head : Term} {t : Token} {rest : List Token}
    (starts : t.startsUnit = true) :
    outcome (arguments head (t :: rest)) = (do
      let (argument, rest₁) ← outcome (unit (t :: rest))
      outcome (arguments (.app head argument) rest₁)) := by
  rw [arguments, if_pos starts]
  refine outcome_bind ?_
  intro unitRead
  dsimp only
  cases arguments (.app head unitRead.1.1) unitRead.1.2 <;> rfl

theorem outcome_unit_ident (name : String) (ts : List Token) :
    outcome (unit (.ident name :: ts)) = .ok (.var name, ts) := by
  rw [unit]
  rfl

theorem outcome_unit_paren (ts : List Token) :
    outcome (unit (.leftParen :: ts)) = (do
      let (inner, rest₁) ← outcome (term ts)
      let rest₂ ← outcome (expect .rightParen rest₁)
      return (inner, rest₂)) := by
  rw [unit]
  refine outcome_bind ?_
  intro innerRead
  exact outcome_bind fun _ => rfl

theorem outcome_unit_lambda (ts : List Token) :
    outcome (unit (.lambda :: ts)) = (do
      let (name, rest₁) ← outcome (expectName ts)
      let rest₂ ← outcome (expect .dot rest₁)
      let (body, rest₃) ← outcome (unit rest₂)
      return (.abs name body, rest₃)) := by
  rw [unit]
  refine outcome_bind ?_
  intro named
  refine outcome_bind ?_
  intro dotted
  exact outcome_bind fun _ => rfl

theorem outcome_bindings (ts : List Token) :
    outcome (bindings ts) = (do
      let (name, rest₁) ← outcome (expectName ts)
      let rest₂ ← outcome (expect .equals rest₁)
      let (value, rest₃) ← outcome (term rest₂)
      let rest₄ ← outcome (expect .semicolon rest₃)
      match rest₄ with
      | .inWord :: rest₅ => return ([(name, value)], rest₅)
      | rest₄ =>
        let (more, rest₅) ← outcome (bindings rest₄)
        return ((name, value) :: more, rest₅)) := by
  rw [bindings]
  refine outcome_bind ?_
  intro named
  refine outcome_bind ?_
  intro equalled
  refine outcome_bind ?_
  intro valueRead
  refine outcome_bind ?_
  intro ended
  obtain ⟨rest₄, h₄⟩ := ended
  dsimp only
  split
  · rfl
  · next notIn =>
    split
    · next rest₅ => exact (notIn rest₅ h₄ rfl HEq.rfl).elim
    · exact outcome_bind fun _ => rfl

theorem wholeTerm_eq (ts : List Token) :
    wholeTerm ts = (do
      let (t, rest) ← outcome (term ts)
      match rest with
      | [] => return t
      | rest => throw ⟨none, rest⟩) := by
  unfold wholeTerm
  cases term ts <;> rfl

/-! ## When a reader succeeds -/

/-- No unit starts at the front of `ts`. -/
def NoUnit (ts : List Token) : Prop := ∀ t ∈ ts.head?, t.startsUnit = false

theorem noUnit_nil : NoUnit [] := by
  intro t member
  cases member

theorem NoUnit.cons {t : Token} {ts : List Token} (stops : t.startsUnit = false) :
    NoUnit (t :: ts) := by
  intro u member
  cases member
  exact stops

theorem noUnit_or_startsUnit (ts : List Token) :
    NoUnit ts ∨ ∃ t rest, ts = t :: rest ∧ t.startsUnit = true := by
  cases ts with
  | nil => exact .inl noUnit_nil
  | cons t rest =>
    cases starts : t.startsUnit with
    | true => exact .inr ⟨t, rest, rfl, starts⟩
    | false => exact .inl (.cons starts)

/-- Where no unit starts, none is read. -/
theorem outcome_unit_of_noUnit {ts : List Token} (ends : NoUnit ts) :
    outcome (unit ts) = .error ⟨none, ts⟩ := by
  have notIdent : ∀ name rest, ts = .ident name :: rest → False := by
    intro name rest same
    subst same
    cases ends _ rfl
  have notParen : ∀ rest, ts = .leftParen :: rest → False := by
    intro rest same
    subst same
    cases ends _ rfl
  have notLambda : ∀ rest, ts = .lambda :: rest → False := by
    intro rest same
    subst same
    cases ends _ rfl
  rw [unit.eq_4 ts notIdent notParen notLambda]
  rfl

/-- Where no unit starts, there are no more arguments. -/
theorem outcome_arguments_of_noUnit {head : Term} {ts : List Token} (ends : NoUnit ts) :
    outcome (arguments head ts) = .ok (head, ts) := by
  cases ts with
  | nil =>
    rw [arguments]
    rfl
  | cons t ts =>
    have stops : t.startsUnit = false := ends t rfl
    rw [arguments, if_neg (by simp [stops])]
    rfl

theorem outcome_expect_eq_ok {kind : TokenKind} {ts rest : List Token} :
    outcome (expect kind ts) = .ok rest ↔ ∃ t, t.kind = kind ∧ ts = t :: rest := by
  cases ts with
  | nil =>
    constructor
    · intro read
      cases read
    · intro found
      obtain ⟨t, -, front⟩ := found
      cases front
  | cons t ts =>
    rw [expect]
    split
    · next same =>
      constructor
      · intro read
        cases read
        exact ⟨t, same, rfl⟩
      · intro found
        obtain ⟨u, -, front⟩ := found
        cases front
        rfl
    · next other =>
      constructor
      · intro read
        cases read
      · intro found
        obtain ⟨u, same, front⟩ := found
        cases front
        exact (other same).elim

/-- Reading a token that is spelt in one way only takes exactly that token. -/
theorem outcome_expect_kind_eq_ok (u : Token) {ts rest : List Token}
    (fixed : u.kind ≠ .identifier ∧ u.kind ≠ .illegal) :
    outcome (expect u.kind ts) = .ok rest ↔ ts = u :: rest := by
  rw [outcome_expect_eq_ok]
  constructor
  · intro found
    obtain ⟨t, same, rfl⟩ := found
    rw [Token.eq_of_kind_eq same fixed]
  · intro front
    exact ⟨u, rfl, front⟩

theorem outcome_expectName_eq_ok {ts rest : List Token} {name : String} :
    outcome (expectName ts) = .ok (name, rest) ↔ ts = .ident name :: rest := by
  constructor
  · intro read
    unfold expectName at read
    split at read
    · cases read
      rfl
    · cases read
  · intro front
    subst front
    rfl

/-- A unit is a name, a term in parentheses, or a binder with its body. -/
theorem outcome_unit_eq_ok {ts rest : List Token} {t : Term} :
    outcome (unit ts) = .ok (t, rest) ↔
      (∃ name, ts = .ident name :: rest ∧ t = .var name) ∨
      (∃ ts₁, ts = .leftParen :: ts₁ ∧ outcome (term ts₁) = .ok (t, .rightParen :: rest)) ∨
      ∃ name ts₁ body, ts = .lambda :: .ident name :: .dot :: ts₁ ∧
        outcome (unit ts₁) = .ok (body, rest) ∧ t = .abs name body := by
  constructor
  · intro read
    rcases noUnit_or_startsUnit ts with ends | ⟨u, ts, rfl, starts⟩
    · rw [outcome_unit_of_noUnit ends] at read
      cases read
    · rcases Token.eq_of_startsUnit starts with ⟨name, rfl⟩ | rfl | rfl
      · rw [outcome_unit_ident] at read
        cases read
        exact .inl ⟨name, rfl, rfl⟩
      · rw [outcome_unit_paren] at read
        obtain ⟨⟨inner, rest₁⟩, innerRead, read⟩ := bind_eq_ok.1 read
        obtain ⟨rest₂, closed, read⟩ := bind_eq_ok.1 read
        cases read
        rw [(outcome_expect_kind_eq_ok .rightParen (by decide)).1 closed] at innerRead
        exact .inr (.inl ⟨ts, rfl, innerRead⟩)
      · rw [outcome_unit_lambda] at read
        obtain ⟨⟨name, rest₁⟩, named, read⟩ := bind_eq_ok.1 read
        obtain ⟨rest₂, dotted, read⟩ := bind_eq_ok.1 read
        obtain ⟨⟨body, rest₃⟩, bodyRead, read⟩ := bind_eq_ok.1 read
        cases read
        rw [outcome_expectName_eq_ok.1 named,
          (outcome_expect_kind_eq_ok .dot (by decide)).1 dotted]
        exact .inr (.inr ⟨name, rest₂, body, rfl, bodyRead, rfl⟩)
  · intro shape
    rcases shape with
      ⟨name, rfl, rfl⟩ | ⟨ts₁, rfl, innerRead⟩ | ⟨name, ts₁, body, rfl, bodyRead, rfl⟩
    · exact outcome_unit_ident name rest
    · rw [outcome_unit_paren, innerRead]
      rfl
    · rw [outcome_unit_lambda]
      refine bind_eq_ok.2 ⟨_, outcome_expectName_eq_ok.2 rfl, ?_⟩
      refine bind_eq_ok.2 ⟨_, (outcome_expect_kind_eq_ok .dot (by decide)).2 rfl, ?_⟩
      exact bind_eq_ok.2 ⟨_, bodyRead, rfl⟩

/-- Where a unit was read, a unit starts. -/
theorem startsUnit_of_outcome_unit {ts rest : List Token} {u : Term}
    (read : outcome (unit ts) = .ok (u, rest)) :
    ∃ t ts₁, ts = t :: ts₁ ∧ t.startsUnit = true := by
  rcases noUnit_or_startsUnit ts with ends | starts
  · rw [outcome_unit_of_noUnit ends] at read
    cases read
  · exact starts

/-- The arguments end where no unit starts, and otherwise go on with one unit. -/
theorem outcome_arguments_eq_ok {head t : Term} {ts rest : List Token} :
    outcome (arguments head ts) = .ok (t, rest) ↔
      (NoUnit ts ∧ t = head ∧ rest = ts) ∨
      ∃ argument rest₁, outcome (unit ts) = .ok (argument, rest₁) ∧
        outcome (arguments (.app head argument) rest₁) = .ok (t, rest) := by
  constructor
  · intro read
    rcases noUnit_or_startsUnit ts with ends | ⟨u, ts, rfl, starts⟩
    · rw [outcome_arguments_of_noUnit ends] at read
      cases read
      exact .inl ⟨ends, rfl, rfl⟩
    · rw [outcome_arguments_start starts] at read
      obtain ⟨⟨argument, rest₁⟩, unitRead, read⟩ := bind_eq_ok.1 read
      exact .inr ⟨argument, rest₁, unitRead, read⟩
  · intro shape
    rcases shape with ⟨ends, rfl, rfl⟩ | ⟨argument, rest₁, unitRead, read⟩
    · exact outcome_arguments_of_noUnit ends
    · obtain ⟨u, ts, rfl, starts⟩ := startsUnit_of_outcome_unit unitRead
      rw [outcome_arguments_start starts, unitRead]
      exact read

/-- A term is a `let` or a unit with its arguments. -/
theorem outcome_term_eq_ok {ts rest : List Token} {t : Term} :
    outcome (term ts) = .ok (t, rest) ↔
      (∃ ts₁ bound rest₁ body, ts = .letWord :: ts₁ ∧ outcome (bindings ts₁) = .ok (bound, rest₁) ∧
        outcome (term rest₁) = .ok (body, rest) ∧ t = letTerm bound body) ∨
      ∃ first rest₁, outcome (unit ts) = .ok (first, rest₁) ∧
        outcome (arguments first rest₁) = .ok (t, rest) := by
  constructor
  · intro read
    by_cases noLet : ∀ rest, ts ≠ .letWord :: rest
    · rw [outcome_term_units noLet] at read
      obtain ⟨⟨first, rest₁⟩, unitRead, read⟩ := bind_eq_ok.1 read
      exact .inr ⟨first, rest₁, unitRead, read⟩
    · obtain ⟨ts₁, rfl⟩ : ∃ ts₁, ts = .letWord :: ts₁ := by simpa using noLet
      rw [outcome_term_let] at read
      obtain ⟨⟨bound, rest₁⟩, boundRead, read⟩ := bind_eq_ok.1 read
      obtain ⟨⟨body, rest₂⟩, bodyRead, read⟩ := bind_eq_ok.1 read
      cases read
      exact .inl ⟨ts₁, bound, rest₁, body, rfl, boundRead, bodyRead, rfl⟩
  · intro shape
    rcases shape with ⟨ts₁, bound, rest₁, body, rfl, boundRead, bodyRead, rfl⟩ |
      ⟨first, rest₁, unitRead, read⟩
    · rw [outcome_term_let]
      exact bind_eq_ok.2 ⟨_, boundRead, bind_eq_ok.2 ⟨_, bodyRead, rfl⟩⟩
    · have noLet : ∀ rest, ts ≠ .letWord :: rest := by
        intro rest front
        obtain ⟨u, ts₁, rfl, starts⟩ := startsUnit_of_outcome_unit unitRead
        cases front
        cases starts
      rw [outcome_term_units noLet, unitRead]
      exact read

/-- The bindings of a `let` end with the word `in`, and otherwise go on with one more binding. -/
theorem outcome_bindings_eq_ok {ts rest : List Token} {bound : List (String × Term)} :
    outcome (bindings ts) = .ok (bound, rest) ↔
      ∃ name ts₁ value rest₁, ts = .ident name :: .equals :: ts₁ ∧
        outcome (term ts₁) = .ok (value, .semicolon :: rest₁) ∧
        ((rest₁ = .inWord :: rest ∧ bound = [(name, value)]) ∨
          ∃ more, outcome (bindings rest₁) = .ok (more, rest) ∧ bound = (name, value) :: more) := by
  constructor
  · intro read
    rw [outcome_bindings] at read
    obtain ⟨⟨name, rest₁⟩, named, read⟩ := bind_eq_ok.1 read
    obtain ⟨rest₂, equalled, read⟩ := bind_eq_ok.1 read
    obtain ⟨⟨value, rest₃⟩, valueRead, read⟩ := bind_eq_ok.1 read
    obtain ⟨rest₄, ended, read⟩ := bind_eq_ok.1 read
    dsimp only at equalled ended read
    rw [(outcome_expect_kind_eq_ok .equals (by decide)).1 equalled] at named
    rw [(outcome_expect_kind_eq_ok .semicolon (by decide)).1 ended] at valueRead
    refine ⟨name, rest₂, value, rest₄, outcome_expectName_eq_ok.1 named, valueRead, ?_⟩
    split at read
    · cases read
      exact .inl ⟨rfl, rfl⟩
    · obtain ⟨⟨more, rest₅⟩, moreRead, read⟩ := bind_eq_ok.1 read
      cases read
      exact .inr ⟨more, moreRead, rfl⟩
  · intro shape
    obtain ⟨name, ts₁, value, rest₁, rfl, valueRead, last⟩ := shape
    rw [outcome_bindings]
    refine bind_eq_ok.2 ⟨_, outcome_expectName_eq_ok.2 rfl, ?_⟩
    refine bind_eq_ok.2 ⟨_, (outcome_expect_kind_eq_ok .equals (by decide)).2 rfl, ?_⟩
    refine bind_eq_ok.2 ⟨_, valueRead, ?_⟩
    refine bind_eq_ok.2 ⟨_, (outcome_expect_kind_eq_ok .semicolon (by decide)).2 rfl, ?_⟩
    rcases last with ⟨rfl, rfl⟩ | ⟨more, moreRead, rfl⟩
    · rfl
    · -- Another binding starts with a name, so what follows the semicolon is not `in`.
      split
      · rw [outcome_bindings] at moreRead
        cases moreRead
      · exact bind_eq_ok.2 ⟨_, moreRead, rfl⟩

/-- The tokens are read as a whole if nothing is left after a term. -/
theorem wholeTerm_eq_ok {ts : List Token} {t : Term} :
    wholeTerm ts = .ok t ↔ outcome (term ts) = .ok (t, []) := by
  rw [wholeTerm_eq]
  constructor
  · intro read
    obtain ⟨⟨u, rest⟩, termRead, read⟩ := bind_eq_ok.1 read
    dsimp only at read
    split at read
    · cases read
      exact termRead
    · cases read
  · intro termRead
    exact bind_eq_ok.2 ⟨_, termRead, rfl⟩

end Reader

end Stepwise
