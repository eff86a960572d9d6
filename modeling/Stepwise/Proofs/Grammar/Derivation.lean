import Stepwise.Grammar.Cursor
import Stepwise.Proofs.Grammar.Reading
import Stepwise.Proofs.Grammar.Scanning

/-!
# The grammar and its derivations

`DerivesTerm ts t` says that the tokens `ts` are a sentence of the grammar

    Term  ::= let Ident = Term ; { Ident = Term ; } in Term | Unit { Unit }
    Unit  ::= Ident | ( Term ) | λ Ident . Unit

and that `t` is the meaning of a derivation.  There is one rule for each alternative, and the rules
know nothing of the order in which a reader tries them.

The readers are sound for the grammar because every success is a rule.  They are complete because
one token of lookahead never cuts a derivation short: a unit is read to its end whatever follows
it, a sequence of units ends where no unit starts, and nothing that may follow a term inside a
sentence starts a unit.  That the grammar is unambiguous is then a consequence, since a reader
gives one answer.
-/

namespace Stepwise

open Reader

/-- The meaning of a `let` with the given bindings around a body. -/
def letMeaning : List (String × Term) → Term → Term
  | [], body => body
  | (name, value) :: more, body => .app (.abs name (letMeaning more body)) value

mutual

/-- The tokens are a `Term` with the given meaning. -/
inductive DerivesTerm : List Token → Term → Prop
  | letIn {ts us : List Token} {bound : List (String × Term)} {body : Term} :
    DerivesBindings ts bound → DerivesTerm us body →
    DerivesTerm (.letWord :: (ts ++ .inWord :: us)) (letMeaning bound body)
  | units {ts : List Token} {t : Term} : DerivesUnits ts t → DerivesTerm ts t

/-- The tokens are a sequence `Ident = Term ; { Ident = Term ; }` of bindings. -/
inductive DerivesBindings : List Token → List (String × Term) → Prop
  | one {name : String} {ts : List Token} {value : Term} :
    DerivesTerm ts value →
    DerivesBindings (.ident name :: .equals :: (ts ++ [.semicolon])) [(name, value)]
  | more {name : String} {ts us : List Token} {value : Term} {bound : List (String × Term)} :
    DerivesTerm ts value → DerivesBindings us bound →
    DerivesBindings (.ident name :: .equals :: (ts ++ .semicolon :: us)) ((name, value) :: bound)

/-- The tokens are a sequence `Unit { Unit }`; juxtaposition associates to the left. -/
inductive DerivesUnits : List Token → Term → Prop
  | one {ts : List Token} {t : Term} : DerivesUnit ts t → DerivesUnits ts t
  | juxtapose {ts us : List Token} {function argument : Term} :
    DerivesUnits ts function → DerivesUnit us argument →
    DerivesUnits (ts ++ us) (.app function argument)

/-- The tokens are a `Unit` with the given meaning. -/
inductive DerivesUnit : List Token → Term → Prop
  | ident (name : String) : DerivesUnit [.ident name] (.var name)
  | paren {ts : List Token} {t : Term} :
    DerivesTerm ts t → DerivesUnit (.leftParen :: (ts ++ [.rightParen])) t
  | binder {name : String} {ts : List Token} {body : Term} :
    DerivesUnit ts body → DerivesUnit (.lambda :: .ident name :: .dot :: ts) (.abs name body)

end

theorem letTerm_eq_letMeaning (bound : List (String × Term)) (body : Term) :
    letTerm bound body = letMeaning bound body := by
  induction bound with
  | nil => rfl
  | cons binding more ih =>
    rw [letMeaning, ← ih]
    rfl

/-! ## What is read is derived -/

mutual

/-- A term that was read is derived by the tokens that were taken. -/
theorem DerivesTerm.of_outcome {ts rest : List Token} {t : Term}
    (read : outcome (term ts) = .ok (t, rest)) :
    ∃ taken, ts = taken ++ rest ∧ DerivesTerm taken t := by
  rcases outcome_term_eq_ok.1 read with
    ⟨ts₁, bound, rest₁, body, rfl, boundRead, bodyRead, rfl⟩ | ⟨first, rest₁, unitRead, argsRead⟩
  · have shorter := length_lt_of_outcome boundRead
    obtain ⟨takenBound, rfl, derivesBound⟩ := DerivesBindings.of_outcome boundRead
    obtain ⟨takenBody, rfl, derivesBody⟩ := DerivesTerm.of_outcome bodyRead
    refine ⟨.letWord :: (takenBound ++ .inWord :: takenBody), by simp, ?_⟩
    rw [letTerm_eq_letMeaning]
    exact .letIn derivesBound derivesBody
  · have shorter := length_lt_of_outcome unitRead
    obtain ⟨takenFirst, rfl, derivesFirst⟩ := DerivesUnit.of_outcome unitRead
    obtain ⟨taken, rfl, derives⟩ := DerivesUnits.of_outcome (.one derivesFirst) argsRead
    exact ⟨takenFirst ++ taken, by simp, .units derives⟩
termination_by 3 * ts.length + 2

/-- Units that were read after `head` are derived together with the units before them. -/
theorem DerivesUnits.of_outcome {before ts rest : List Token} {head t : Term}
    (derivesHead : DerivesUnits before head)
    (read : outcome (arguments head ts) = .ok (t, rest)) :
    ∃ taken, ts = taken ++ rest ∧ DerivesUnits (before ++ taken) t := by
  rcases outcome_arguments_eq_ok.1 read with ⟨-, rfl, rfl⟩ | ⟨argument, rest₁, unitRead, argsRead⟩
  · exact ⟨[], rfl, by simpa using derivesHead⟩
  · have shorter := length_lt_of_outcome unitRead
    obtain ⟨takenUnit, rfl, derivesUnit⟩ := DerivesUnit.of_outcome unitRead
    obtain ⟨taken, rfl, derives⟩ :=
      DerivesUnits.of_outcome (.juxtapose derivesHead derivesUnit) argsRead
    exact ⟨takenUnit ++ taken, by simp, by simpa using derives⟩
termination_by 3 * ts.length + 1

/-- A unit that was read is derived by the tokens that were taken. -/
theorem DerivesUnit.of_outcome {ts rest : List Token} {t : Term}
    (read : outcome (unit ts) = .ok (t, rest)) :
    ∃ taken, ts = taken ++ rest ∧ DerivesUnit taken t := by
  rcases outcome_unit_eq_ok.1 read with
    ⟨name, rfl, rfl⟩ | ⟨ts₁, rfl, innerRead⟩ | ⟨name, ts₁, body, rfl, bodyRead, rfl⟩
  · exact ⟨[.ident name], rfl, .ident name⟩
  · obtain ⟨taken, rfl, derives⟩ := DerivesTerm.of_outcome innerRead
    exact ⟨.leftParen :: (taken ++ [.rightParen]), by simp, .paren derives⟩
  · obtain ⟨taken, rfl, derives⟩ := DerivesUnit.of_outcome bodyRead
    exact ⟨.lambda :: .ident name :: .dot :: taken, by simp, .binder derives⟩
termination_by 3 * ts.length

/-- Bindings that were read are derived by the tokens that were taken, less the word `in`. -/
theorem DerivesBindings.of_outcome {ts rest : List Token} {bound : List (String × Term)}
    (read : outcome (bindings ts) = .ok (bound, rest)) :
    ∃ taken, ts = taken ++ .inWord :: rest ∧ DerivesBindings taken bound := by
  obtain ⟨name, ts₁, value, rest₁, rfl, valueRead, last⟩ := outcome_bindings_eq_ok.1 read
  have shorter := length_lt_of_outcome valueRead
  obtain ⟨takenValue, rfl, derivesValue⟩ := DerivesTerm.of_outcome valueRead
  rcases last with ⟨rfl, rfl⟩ | ⟨more, moreRead, rfl⟩
  · exact ⟨.ident name :: .equals :: (takenValue ++ [.semicolon]), by simp, .one derivesValue⟩
  · obtain ⟨takenMore, rfl, derivesMore⟩ := DerivesBindings.of_outcome moreRead
    exact ⟨.ident name :: .equals :: (takenValue ++ .semicolon :: takenMore), by simp,
      .more derivesValue derivesMore⟩
termination_by 3 * ts.length

end

/-! ## What is derived is read -/

mutual

/-- A derived term is read to its end, if no unit starts there. -/
theorem DerivesTerm.outcome_eq {ts : List Token} {t : Term} (derives : DerivesTerm ts t)
    (rest : List Token) (ends : NoUnit rest) : outcome (term (ts ++ rest)) = .ok (t, rest) := by
  match derives with
  | .letIn derivesBound derivesBody =>
    refine outcome_term_eq_ok.2 (.inl ⟨_, _, _, _, ?_, derivesBound.outcome_eq _,
      derivesBody.outcome_eq rest ends, ?_⟩)
    · simp
    · rw [letTerm_eq_letMeaning]
  | .units derivesUnits =>
    have argsRead : outcome (arguments t rest) = .ok (t, rest) :=
      outcome_arguments_eq_ok.2 (.inl ⟨ends, rfl, rfl⟩)
    exact outcome_term_eq_ok.2 (.inr (derivesUnits.outcome_eq argsRead))

/-- Derived bindings are read to the word `in` that follows them. -/
theorem DerivesBindings.outcome_eq {ts : List Token} {bound : List (String × Term)}
    (derives : DerivesBindings ts bound) (rest : List Token) :
    outcome (bindings (ts ++ .inWord :: rest)) = .ok (bound, rest) := by
  match derives with
  | .one derivesValue =>
    refine outcome_bindings_eq_ok.2
      ⟨_, _, _, _, ?_, derivesValue.outcome_eq _ (.cons rfl), .inl ⟨rfl, rfl⟩⟩
    simp
  | .more derivesValue derivesMore =>
    refine outcome_bindings_eq_ok.2 ⟨_, _, _, _, ?_, derivesValue.outcome_eq _ (.cons rfl),
      .inr ⟨_, derivesMore.outcome_eq rest, rfl⟩⟩
    simp

/-- Derived units are read one after the other: reading the first of them and going on with the
others ends as reading on after all of them ends. -/
theorem DerivesUnits.outcome_eq {ts rest left : List Token} {t whole : Term}
    (derives : DerivesUnits ts t) (read : outcome (arguments t rest) = .ok (whole, left)) :
    ∃ first rest₁, outcome (unit (ts ++ rest)) = .ok (first, rest₁) ∧
      outcome (arguments first rest₁) = .ok (whole, left) := by
  match derives with
  | .one derivesUnit => exact ⟨t, rest, derivesUnit.outcome_eq rest, read⟩
  | .juxtapose derivesFunction derivesArgument =>
    have argsRead := outcome_arguments_eq_ok.2 (.inr ⟨_, _, derivesArgument.outcome_eq rest, read⟩)
    rw [List.append_assoc]
    exact derivesFunction.outcome_eq argsRead

/-- A derived unit is read to its end, whatever follows it. -/
theorem DerivesUnit.outcome_eq {ts : List Token} {t : Term} (derives : DerivesUnit ts t)
    (rest : List Token) : outcome (unit (ts ++ rest)) = .ok (t, rest) := by
  match derives with
  | .ident name => exact outcome_unit_ident name rest
  | .paren derivesInner =>
    refine outcome_unit_eq_ok.2 (.inr (.inl ⟨_, ?_, derivesInner.outcome_eq _ (.cons rfl)⟩))
    simp
  | .binder derivesBody =>
    exact outcome_unit_eq_ok.2 (.inr (.inr ⟨_, _, _, rfl, derivesBody.outcome_eq rest, rfl⟩))

end

/-! ## Whole sources -/

/-- All the tokens are read as one term exactly if they derive it. -/
theorem wholeTerm_eq_ok_iff_derivesTerm {ts : List Token} {t : Term} :
    wholeTerm ts = .ok t ↔ DerivesTerm ts t := by
  rw [wholeTerm_eq_ok]
  constructor
  · intro read
    obtain ⟨taken, rfl, derives⟩ := DerivesTerm.of_outcome read
    rwa [List.append_nil]
  · intro derives
    have read := derives.outcome_eq [] noUnit_nil
    rwa [List.append_nil] at read

/-- No tokens have two meanings. -/
theorem DerivesTerm.unique {ts : List Token} {t u : Term} (left : DerivesTerm ts t)
    (right : DerivesTerm ts u) : t = u := by
  have same := (wholeTerm_eq_ok_iff_derivesTerm.2 left).symm.trans
    (wholeTerm_eq_ok_iff_derivesTerm.2 right)
  exact Except.ok.inj same

/-- Characters are read as a term exactly if their tokens derive it. -/
theorem Term.parseChars_eq_ok_iff_derivesTerm {source : List Char} {t : Term} :
    parseChars source = .ok t ↔ DerivesTerm (Token.scan source) t := by
  rw [← wholeTerm_eq_ok_iff_derivesTerm]
  unfold parseChars Cursor.read Cursor.tokens
  change _ ↔ wholeTerm ((Cursor.ofChars source).lexemes.map Lexeme.token) = .ok t
  cases wholeTerm ((Cursor.ofChars source).lexemes.map Lexeme.token) with
  | ok u =>
    constructor
    · intro read
      cases read
      rfl
    · intro read
      cases read
      rfl
  | error stop =>
    constructor
    · intro read
      cases read
    · intro read
      cases read

/-- Reading decides the grammar.  A source is read as `t` exactly if its tokens derive `t`, no
sequence of tokens has two meanings, and a source is refused with a syntax error exactly if its
tokens derive nothing. -/
theorem Term.parse_decides_grammar :
    (∀ (source : String) (t : Term),
      parse source = .ok t ↔ DerivesTerm (Token.scan source.toList) t) ∧
    (∀ (ts : List Token) (t u : Term), DerivesTerm ts t → DerivesTerm ts u → t = u) ∧
    ∀ source : String,
      (∃ e : SyntaxError, parse source = .error e) ↔
        ¬ ∃ t, DerivesTerm (Token.scan source.toList) t := by
  refine ⟨fun source t => parseChars_eq_ok_iff_derivesTerm, fun ts t u => DerivesTerm.unique, ?_⟩
  intro source
  simp only [← parseChars_eq_ok_iff_derivesTerm]
  change (∃ e, parseChars source.toList = .error e) ↔ _
  cases parseChars source.toList with
  | ok t =>
    constructor
    · intro refused
      obtain ⟨e, read⟩ := refused
      cases read
    · intro derivesNone
      exact (derivesNone ⟨t, rfl⟩).elim
  | error e =>
    constructor
    · intro _ derivesSome
      obtain ⟨t, read⟩ := derivesSome
      cases read
    · intro _
      exact ⟨e, rfl⟩

end Stepwise
