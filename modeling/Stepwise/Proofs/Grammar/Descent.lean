import Stepwise.Proofs.Grammar.Refusal
import Stepwise.Proofs.Grammar.Scanner

/-!
# Recursive descent from a scanner

The readers of `Stepwise/Grammar/Reader.lean` take a list of tokens and carry the proof that they
take some of it.  Here the same grammar is read from a scanner, which cuts off one lexeme when one
is needed, by functions that call each other and themselves: the units of a term are read in one
loop, the bindings of a `let` in another, and no function knows how much of the source is left.

Nothing makes such functions stop, so they are given the depth to which calls may be nested,
another round of a loop being a call like any other.  At depth zero there is no answer.  A reading
that never ends has no answer at any depth.

Each of these readings ends: at a depth of about three times the number of tokens that are left it
gives what the reader of the tokens gives, and leaves the scanner at the tokens that the reader
leaves (`Descent.agrees_term`, `Descent.agrees_arguments`, `Descent.agrees_unit`,
`Descent.agrees_letForm`, `Descent.agrees_bindings`).  `Agrees` has one rule for each way in which
the functions are put together, and the induction is on the depth.
-/

namespace Stepwise

open Reader

namespace Scanner

/-! ## What a reader sees of a scanner -/

/-- The tokens from the current one on. -/
def tokens (s : Scanner) : List Token := s.cursor.tokens

/-- The current token, or `none` at the end. -/
def token (s : Scanner) : Option Token := s.current.map Lexeme.token

/-- The refusal of the current token, where a token of the kind `wanted` was asked for. -/
def refusal (s : Scanner) (wanted : Option TokenKind) : SyntaxError :=
  match wanted with
  | some kind => ⟨s.place, .expected kind s.token⟩
  | none => ⟨s.place, .unexpected s.token⟩

variable (s : Scanner)

theorem token_eq_head? : s.token = s.tokens.head? := by
  rw [token, current_eq_head?, tokens, Cursor.tokens, List.head?_map]
  rfl

theorem tokens_iterate (k : Nat) : (next^[k] s).tokens = s.tokens.drop k := by
  unfold tokens Cursor.tokens cursor
  rw [lexemes_iterate, List.map_drop]

theorem tokens_next : s.next.tokens = s.tokens.tail := by
  rw [← List.drop_one]
  exact s.tokens_iterate 1

/-- A scanner stands at its token and then at those of the next scanner, or at the end. -/
theorem tokens_eq :
    (s.token = none ∧ s.tokens = []) ∨ ∃ t, s.token = some t ∧ s.tokens = t :: s.next.tokens := by
  rw [token_eq_head?, tokens_next]
  cases s.tokens with
  | nil => exact .inl ⟨rfl, rfl⟩
  | cons t ts => exact .inr ⟨t, rfl, rfl⟩

theorem tokens_of_token_eq_some {s : Scanner} {t : Token} (here : s.token = some t) :
    s.tokens = t :: s.next.tokens := by
  rcases s.tokens_eq with ⟨atEnd, -⟩ | ⟨u, token, tokens⟩
  · rw [atEnd] at here
    cases here
  · rw [token] at here
    cases here
    exact tokens

theorem length_tokens_next_lt {s : Scanner} {t : Token} (here : s.token = some t) :
    s.next.tokens.length < s.tokens.length := by
  rw [tokens_of_token_eq_some here]
  exact Nat.lt_succ_self _

theorem any_startsUnit_of_noUnit {s : Scanner} (ends : NoUnit s.tokens) :
    s.token.any Token.startsUnit = false := by
  rw [token_eq_head?]
  cases first : s.tokens.head? with
  | none => rfl
  | some t => exact ends t first

theorem pos_refusal (wanted : Option TokenKind) : (s.refusal wanted).pos = s.place := by
  cases wanted <;> rfl

end Scanner

/-! ## The functions -/

/-- Reading from a scanner.  It gives a value or a refusal, and the scanner as it is then, or `none`
if that would take deeper calls. -/
abbrev Descent (α : Type) : Type := ExceptT SyntaxError (StateT Scanner Option) α

namespace Descent

/-- Takes the current token. -/
def advance : Descent Unit := modify Scanner.next

/-- Looks at the current token. -/
def peek : Descent (Option Token) := return (← get).token

/-- Refuses the current token. -/
def refuse {α : Type} (wanted : Option TokenKind) : Descent α := do
  throw ((← get).refusal wanted)

/-- Takes a token of the given kind. -/
def expect (kind : TokenKind) : Descent Unit := do
  if (← peek).map Token.kind = some kind then advance else refuse (some kind)

/-- Takes an identifier. -/
def expectName : Descent String := do
  match ← peek with
  | some (.ident name) =>
    advance
    return name
  | _ => refuse (some .identifier)

/-- There is no answer at this depth. -/
def tooDeep {α : Type} : Descent α := fun _ => none

mutual

/-- Reads a term. -/
def term : (depth : Nat) → Descent Term
  | 0 => tooDeep
  | depth + 1 => do
    if (← peek) = some .letWord then letForm depth
    else
      let first ← unit depth
      arguments depth first

/-- Reads units as long as one starts, and applies `head` to them, one after the other. -/
def arguments : (depth : Nat) → Term → Descent Term
  | 0, _ => tooDeep
  | depth + 1, head => do
    if (← peek).any Token.startsUnit then
      let argument ← unit depth
      arguments depth (.app head argument)
    else return head

/-- Reads a unit. -/
def unit : (depth : Nat) → Descent Term
  | 0 => tooDeep
  | depth + 1 => do
    match ← peek with
    | some (.ident name) =>
      advance
      return .var name
    | some .leftParen =>
      advance
      let inner ← term depth
      expect .rightParen
      return inner
    | some .lambda =>
      advance
      let name ← expectName
      expect .dot
      let body ← unit depth
      return .abs name body
    | _ => refuse none

/-- Takes the word `let` and reads what it stands in front of. -/
def letForm : (depth : Nat) → Descent Term
  | 0 => tooDeep
  | depth + 1 => do
    advance
    let bound ← bindings depth []
    let body ← term depth
    return Reader.letTerm bound body

/-- Reads bindings until the word `in`, and takes it.  Those before them are `bound`. -/
def bindings : (depth : Nat) → List (String × Term) → Descent (List (String × Term))
  | 0, _ => tooDeep
  | depth + 1, bound => do
    let name ← expectName
    expect .equals
    let value ← term depth
    expect .semicolon
    if (← peek) = some .inWord then
      advance
      return bound ++ [(name, value)]
    else bindings depth (bound ++ [(name, value)])

end

/-! ## Running -/

/-- What reading from the scanner `s` gives. -/
def run {α : Type} (m : Descent α) (s : Scanner) : Option (Except SyntaxError α × Scanner) :=
  StateT.run (ExceptT.run m) s

section

variable {α β : Type} {m : Descent α} {f : α → Descent β} {s s' : Scanner}

theorem run_bind_ok {a : α} (first : m.run s = some (.ok a, s')) :
    (m >>= f).run s = (f a).run s' := by
  unfold run at first ⊢
  rw [ExceptT.run_bind, StateT.run_bind, first]
  rfl

theorem run_bind_error {e : SyntaxError} (first : m.run s = some (.error e, s')) :
    (m >>= f).run s = some (.error e, s') := by
  unfold run at first ⊢
  rw [ExceptT.run_bind, StateT.run_bind, first]
  rfl

end

theorem run_expect_of_kind {s : Scanner} {kind : TokenKind}
    (same : s.token.map Token.kind = some kind) :
    (expect kind).run s = some (.ok (), s.next) := by
  unfold expect
  refine (run_bind_ok rfl).trans ?_
  rw [if_pos same]
  rfl

theorem run_expect_of_other {s : Scanner} {kind : TokenKind}
    (other : s.token.map Token.kind ≠ some kind) :
    (expect kind).run s = some (.error (s.refusal (some kind)), s) := by
  unfold expect
  refine (run_bind_ok rfl).trans ?_
  rw [if_neg other]
  rfl

theorem run_expectName_of_ident {s : Scanner} {name : String}
    (here : s.token = some (.ident name)) :
    expectName.run s = some (.ok name, s.next) := by
  unfold expectName
  refine (run_bind_ok rfl).trans ?_
  rw [here]
  rfl

theorem run_expectName_of_other {s : Scanner} (other : ∀ name, s.token ≠ some (.ident name)) :
    expectName.run s = some (.error (s.refusal (some .identifier)), s) := by
  unfold expectName
  refine (run_bind_ok rfl).trans ?_
  split
  · next name here => exact (other name here).elim
  · rfl

/-! ## The same as reading tokens -/

/-- From the scanner `s`, the reading `m` comes to an end with what the reading `r` of tokens gives,
and leaves the scanner at the tokens that `r` leaves. -/
inductive Agrees {α : Type} (m : Descent α) (s : Scanner) (r : Except Stop (α × List Token)) : Prop
  | value {a : α} (k : Nat) (read : r = .ok (a, (Scanner.next^[k] s).tokens))
    (run : m.run s = some (.ok a, Scanner.next^[k] s))
  | refusal {wanted : Option TokenKind} (k : Nat)
    (read : r = .error ⟨wanted, (Scanner.next^[k] s).tokens⟩)
    (run : m.run s = some (.error ((Scanner.next^[k] s).refusal wanted), Scanner.next^[k] s))

namespace Agrees

variable {α β : Type} {m : Descent α} {s : Scanner} {r : Except Stop (β × List Token)}

theorem ret (a : α) (s : Scanner) : Agrees (pure a) s (.ok (a, s.tokens)) := .value 0 rfl rfl

theorem refuse (wanted : Option TokenKind) (s : Scanner) :
    Agrees (Descent.refuse wanted : Descent α) s (.error ⟨wanted, s.tokens⟩) := .refusal 0 rfl rfl

/-- Looking at the current token takes nothing. -/
theorem peek {f : Option Token → Descent β} (agrees : Agrees (f s.token) s r) :
    Agrees (Descent.peek >>= f) s r := by
  cases agrees with
  | value k read run => exact .value k read ((run_bind_ok rfl).trans run)
  | refusal k read run => exact .refusal k read ((run_bind_ok rfl).trans run)

/-- What takes one token is followed by what the next scanner gives. -/
theorem taken {f : α → Descent β} {a : α} (run : m.run s = some (.ok a, s.next))
    (agrees : Agrees (f a) s.next r) : Agrees (m >>= f) s r := by
  cases agrees with
  | value k read run₂ => exact .value (k + 1) read ((run_bind_ok run).trans run₂)
  | refusal k read run₂ => exact .refusal (k + 1) read ((run_bind_ok run).trans run₂)

theorem advance {f : Unit → Descent β} (agrees : Agrees (f ()) s.next r) :
    Agrees (Descent.advance >>= f) s r := taken rfl agrees

/-- Readings in sequence agree if the first do, and the second from where the first have ended. -/
theorem bind {f : α → Descent β} {first : Except Stop (α × List Token)}
    {g : α × List Token → Except Stop (β × List Token)} (agrees : Agrees m s first)
    (onward : ∀ a k, first = .ok (a, (Scanner.next^[k] s).tokens) →
      Agrees (f a) (Scanner.next^[k] s) (g (a, (Scanner.next^[k] s).tokens))) :
    Agrees (m >>= f) s (first >>= g) := by
  cases agrees with
  | refusal k read run => exact .refusal k (by rw [read]; rfl) (run_bind_error run)
  | value k read run =>
    have agrees₂ := onward _ k read
    rw [read]
    cases agrees₂ with
    | value j read₂ run₂ =>
      rw [← Function.iterate_add_apply] at read₂ run₂
      exact .value (j + k) read₂ ((run_bind_ok run).trans run₂)
    | refusal j read₂ run₂ =>
      rw [← Function.iterate_add_apply] at read₂ run₂
      exact .refusal (j + k) read₂ ((run_bind_ok run).trans run₂)

/-- A token is taken or refused by its kind. -/
theorem expect (kind : TokenKind) {f : Unit → Descent β}
    {g : List Token → Except Stop (β × List Token)}
    (onward : s.next.tokens.length < s.tokens.length → Agrees (f ()) s.next (g s.next.tokens)) :
    Agrees (Descent.expect kind >>= f) s (outcome (Reader.expect kind s.tokens) >>= g) := by
  by_cases same : s.token.map Token.kind = some kind
  · obtain ⟨t, here, isKind⟩ := Option.map_eq_some_iff.1 same
    have tokens := Scanner.tokens_of_token_eq_some here
    have read : outcome (Reader.expect kind s.tokens) = .ok s.next.tokens :=
      outcome_expect_eq_ok.2 ⟨t, isKind, tokens⟩
    rw [read]
    exact taken (run_expect_of_kind same) (onward (Scanner.length_tokens_next_lt here))
  · have read : outcome (Reader.expect kind s.tokens) = .error ⟨some kind, s.tokens⟩ := by
      refine outcome_expect_eq_error.2 ⟨rfl, ?_⟩
      intro t first isKind
      rw [← Scanner.token_eq_head?] at first
      apply same
      rw [first, Option.map_some, isKind]
    rw [read]
    exact .refusal 0 rfl (run_bind_error (run_expect_of_other same))

/-- An identifier is taken, and anything else refused. -/
theorem expectName {f : String → Descent β} {g : String × List Token → Except Stop (β × List Token)}
    (onward : ∀ name, s.next.tokens.length < s.tokens.length →
      Agrees (f name) s.next (g (name, s.next.tokens))) :
    Agrees (Descent.expectName >>= f) s (outcome (Reader.expectName s.tokens) >>= g) := by
  by_cases ident : ∃ name, s.token = some (.ident name)
  · obtain ⟨name, here⟩ := ident
    have tokens := Scanner.tokens_of_token_eq_some here
    have read := outcome_expectName_eq_ok.2 tokens
    rw [read]
    exact taken (run_expectName_of_ident here)
      (onward name (Scanner.length_tokens_next_lt here))
  · rw [not_exists] at ident
    have read : outcome (Reader.expectName s.tokens) = .error ⟨some .identifier, s.tokens⟩ := by
      refine outcome_expectName_eq_error.2 ⟨rfl, ?_⟩
      intro u first kind
      rw [← Scanner.token_eq_head?] at first
      cases u with
      | ident name => exact ident name first
      | _ => cases kind
    rw [read]
    exact .refusal 0 rfl (run_bind_error (run_expectName_of_other ident))

end Agrees

-- A term may call for a `let` or for arguments, and these for a unit or for bindings, before any
-- token is taken; so the three bounds differ by one.  Further down there are fewer tokens.
mutual

/-- A term is read from a scanner as it is from the tokens. -/
theorem agrees_term {depth : Nat} (s : Scanner) (enough : 3 * s.tokens.length + 2 < depth) :
    Agrees (term depth) s (outcome (Reader.term s.tokens)) := by
  cases depth with
  | zero => omega
  | succ depth =>
    rw [term]
    apply Agrees.peek
    split
    · next isLet =>
      rw [Scanner.tokens_of_token_eq_some isLet]
      exact agrees_letForm s (by omega)
    · next notLet =>
      have noLet : ∀ rest, s.tokens ≠ .letWord :: rest := by
        intro rest tokens
        rw [Scanner.token_eq_head?, tokens] at notLet
        exact notLet rfl
      rw [outcome_term_units noLet]
      refine (agrees_unit s (by omega)).bind ?_
      intro first k read
      have shorter := length_lt_of_outcome read
      exact agrees_arguments first _ (by omega)

/-- So are the arguments of a term. -/
theorem agrees_arguments {depth : Nat} (head : Term) (s : Scanner)
    (enough : 3 * s.tokens.length + 1 < depth) :
    Agrees (arguments depth head) s (outcome (Reader.arguments head s.tokens)) := by
  cases depth with
  | zero => omega
  | succ depth =>
    rw [arguments]
    apply Agrees.peek
    rcases noUnit_or_startsUnit s.tokens with ends | ⟨t, ts, tokens, starts⟩
    · rw [outcome_arguments_of_noUnit ends, Scanner.any_startsUnit_of_noUnit ends]
      exact .ret head s
    · have here : s.token = some t := by rw [Scanner.token_eq_head?, tokens, List.head?_cons]
      rw [tokens, outcome_arguments_start starts, ← tokens, here, Option.any_some, if_pos starts]
      refine (agrees_unit s (by omega)).bind ?_
      intro argument k read
      have shorter := length_lt_of_outcome read
      exact agrees_arguments _ _ (by omega)

/-- So is a unit. -/
theorem agrees_unit {depth : Nat} (s : Scanner) (enough : 3 * s.tokens.length < depth) :
    Agrees (unit depth) s (outcome (Reader.unit s.tokens)) := by
  cases depth with
  | zero => omega
  | succ depth =>
    rw [unit]
    apply Agrees.peek
    split
    · next name here =>
      rw [Scanner.tokens_of_token_eq_some here, outcome_unit_ident]
      exact .advance (.ret _ _)
    · next here =>
      have shorter := Scanner.length_tokens_next_lt here
      rw [Scanner.tokens_of_token_eq_some here, outcome_unit_paren]
      apply Agrees.advance
      refine (agrees_term s.next (by omega)).bind ?_
      intro inner k _
      apply Agrees.expect
      intro _
      exact .ret _ _
    · next here =>
      have shorter₁ := Scanner.length_tokens_next_lt here
      rw [Scanner.tokens_of_token_eq_some here, outcome_unit_lambda]
      apply Agrees.advance
      apply Agrees.expectName
      intro name shorter₂
      apply Agrees.expect
      intro shorter₃
      refine (agrees_unit _ (by omega)).bind ?_
      intro body k _
      exact .ret _ _
    · next noIdent noParen noLambda =>
      have ends : NoUnit s.tokens := by
        intro t first
        rw [← Scanner.token_eq_head?] at first
        cases starts : t.startsUnit with
        | false => rfl
        | true =>
          rcases Token.eq_of_startsUnit starts with ⟨name, rfl⟩ | rfl | rfl
          · exact (noIdent name first).elim
          · exact (noParen first).elim
          · exact (noLambda first).elim
      rw [outcome_unit_of_noUnit ends]
      exact .refuse none s

/-- So is a `let`, whatever stands in the place of the word. -/
theorem agrees_letForm {depth : Nat} (s : Scanner) (enough : 3 * s.tokens.length + 1 < depth) :
    Agrees (letForm depth) s (outcome (Reader.term (.letWord :: s.next.tokens))) := by
  cases depth with
  | zero => omega
  | succ depth =>
    have within : s.next.tokens.length ≤ s.tokens.length := by
      rw [Scanner.tokens_next, List.length_tail]
      exact Nat.sub_le _ _
    have boundRead :
        Agrees (bindings depth []) s.next (outcome (Reader.bindings s.next.tokens)) := by
      simpa using agrees_bindings [] s.next (by omega)
    rw [letForm, outcome_term_let]
    apply Agrees.advance
    refine boundRead.bind ?_
    intro bound k read
    have shorter := length_lt_of_outcome read
    refine (agrees_term _ (by omega)).bind ?_
    intro body j _
    exact .ret _ _

/-- So are the bindings of a `let`. -/
theorem agrees_bindings {depth : Nat} (bound : List (String × Term)) (s : Scanner)
    (enough : 3 * s.tokens.length < depth) :
    Agrees (bindings depth bound) s (do
      let (more, rest) ← outcome (Reader.bindings s.tokens)
      return (bound ++ more, rest)) := by
  cases depth with
  | zero => omega
  | succ depth =>
    rw [bindings, outcome_bindings]
    simp only [bind_assoc]
    apply Agrees.expectName
    intro name shorter₁
    apply Agrees.expect
    intro shorter₂
    refine (agrees_term s.next.next (by omega)).bind ?_
    intro value k read
    have shorter₃ := length_lt_of_outcome read
    apply Agrees.expect
    intro shorter₄
    apply Agrees.peek
    split
    · next isIn =>
      rw [Scanner.tokens_of_token_eq_some isIn]
      exact .advance (.ret _ _)
    · next notIn =>
      have moreRead : Agrees (bindings depth (bound ++ [(name, value)])) _ _ :=
        agrees_bindings _ (Scanner.next^[k] s.next.next).next (by omega)
      dsimp only
      split
      · next rest tokens =>
        rw [Scanner.token_eq_head?, tokens] at notIn
        exact (notIn rfl).elim
      · simp only [bind_assoc, pure_bind]
        simpa only [List.append_assoc, List.singleton_append] using moreRead

end

end Descent

end Stepwise
