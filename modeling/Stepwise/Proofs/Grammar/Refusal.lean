import Stepwise.Proofs.Grammar.Derivation

/-!
# Refusals

Where and why the readers of a grammar stop.  `StopsTerm taken wanted next` says that reading a
term takes the tokens `taken` and stops at `next`, which is `none` at the end of the input, with
`wanted` as what it asked for there.  There is one rule for each place at which a reader gives up,
and none of them looks beyond `next`.

Three facts make a refusal useful to whoever wrote the source.  Every failure of a reader is one of
these stops (`StopsTerm.of_outcome`).  A stop does not depend on what follows the offending token
(`StopsTerm.outcome_eq`), so no continuation repairs it.  And what was taken before it can be
completed (`StopsTerm.viable`), so nothing wrong was taken.
-/

namespace Stepwise

open Reader

/-! ## Failing sequences and failing tokens -/

namespace Reader

/-- A sequence of two readings fails if the first does, or the second after it. -/
theorem bind_eq_error {α β : Type} {r : Except Stop α} {next : α → Except Stop β} {stop : Stop} :
    r >>= next = .error stop ↔ r = .error stop ∨ ∃ a, r = .ok a ∧ next a = .error stop := by
  cases r with
  | error other =>
    change (.error other : Except Stop β) = .error stop ↔ _
    constructor
    · intro failed
      cases failed
      exact .inl rfl
    · intro failed
      rcases failed with failed | ⟨a, read, -⟩
      · cases failed
        rfl
      · cases read
  | ok a =>
    constructor
    · intro failed
      exact .inr ⟨a, rfl, failed⟩
    · intro failed
      rcases failed with failed | ⟨b, read, failed⟩
      · cases failed
      · cases read
        exact failed

theorem outcome_expect_eq_error {kind : TokenKind} {ts : List Token} {stop : Stop} :
    outcome (expect kind ts) = .error stop ↔
      stop = ⟨some kind, ts⟩ ∧ ∀ u ∈ ts.head?, u.kind ≠ kind := by
  cases ts with
  | nil =>
    constructor
    · intro failed
      cases failed
      exact ⟨rfl, nofun⟩
    · intro shape
      rw [shape.1]
      rfl
  | cons t ts =>
    rw [expect]
    split
    · next same =>
      constructor
      · intro failed
        cases failed
      · intro shape
        exact (shape.2 t rfl same).elim
    · next other =>
      constructor
      · intro failed
        cases failed
        refine ⟨rfl, ?_⟩
        intro u here
        cases here
        exact other
      · intro shape
        rw [shape.1]
        rfl

theorem outcome_expectName_eq_error {ts : List Token} {stop : Stop} :
    outcome (expectName ts) = .error stop ↔
      stop = ⟨some .identifier, ts⟩ ∧ ∀ u ∈ ts.head?, u.kind ≠ .identifier := by
  constructor
  · intro failed
    unfold expectName at failed
    split at failed
    · cases failed
    · next other =>
      cases failed
      refine ⟨rfl, ?_⟩
      intro u here kind
      cases ts with
      | nil => cases here
      | cons t ts =>
        cases here
        cases u with
        | ident name => exact other name ts rfl
        | _ => cases kind
  · intro shape
    obtain ⟨rfl, other⟩ := shape
    unfold expectName
    split
    · exact (other _ rfl rfl).elim
    · rfl

/-- Arguments are read as long as units start, so none starts after them. -/
theorem noUnit_of_outcome_arguments {head t : Term} {ts rest : List Token}
    (read : outcome (arguments head ts) = .ok (t, rest)) : NoUnit rest := by
  rcases outcome_arguments_eq_ok.1 read with ⟨ends, -, rfl⟩ | ⟨argument, rest₁, unitRead, read₁⟩
  · exact ends
  · have shorter := length_lt_of_outcome unitRead
    exact noUnit_of_outcome_arguments read₁
termination_by ts.length

/-- No unit starts after a term. -/
theorem noUnit_of_outcome_term {ts rest : List Token} {t : Term}
    (read : outcome (term ts) = .ok (t, rest)) : NoUnit rest := by
  rcases outcome_term_eq_ok.1 read with
    ⟨ts₁, bound, rest₁, body, rfl, boundRead, bodyRead, -⟩ | ⟨first, rest₁, -, argsRead⟩
  · have shorter : rest₁.length < (Token.letWord :: ts₁).length :=
      Nat.lt_succ_of_lt (length_lt_of_outcome boundRead)
    exact noUnit_of_outcome_term bodyRead
  · exact noUnit_of_outcome_arguments argsRead
termination_by ts.length
decreasing_by subst_vars; exact shorter

theorem ne_letWord_of_startsUnit {ts : List Token}
    (front : ∃ u us, ts = u :: us ∧ u.startsUnit = true) (rest : List Token) :
    ts ≠ .letWord :: rest := by
  obtain ⟨u, us, rfl, starts⟩ := front
  intro same
  cases same
  cases starts

end Reader

/-! ## Stops -/

mutual

/-- Reading a term takes the tokens and stops at `next`. -/
inductive StopsTerm : List Token → Option TokenKind → Option Token → Prop
  | start {next : Option Token} :
    (∀ u ∈ next, u ≠ .letWord ∧ u.startsUnit = false) → StopsTerm [] none next
  | unit {ts : List Token} {wanted : Option TokenKind} {next : Option Token} :
    StopsUnit ts wanted next → StopsTerm ts wanted next
  | argument {ts us : List Token} {t : Term} {wanted : Option TokenKind} {next : Option Token} :
    DerivesUnits ts t → StopsUnit us wanted next → StopsTerm (ts ++ us) wanted next
  | bindings {ts : List Token} {wanted : Option TokenKind} {next : Option Token} :
    StopsBindings ts wanted next → StopsTerm (.letWord :: ts) wanted next
  | body {ts us : List Token} {bound : List (String × Term)} {wanted : Option TokenKind}
    {next : Option Token} :
    DerivesBindings ts bound → StopsTerm us wanted next →
    StopsTerm (.letWord :: (ts ++ .inWord :: us)) wanted next

/-- Reading a unit takes the tokens, of which there is at least one, and stops at `next`. -/
inductive StopsUnit : List Token → Option TokenKind → Option Token → Prop
  | inner {ts : List Token} {wanted : Option TokenKind} {next : Option Token} :
    StopsTerm ts wanted next → StopsUnit (.leftParen :: ts) wanted next
  | close {ts : List Token} {t : Term} {next : Option Token} :
    DerivesTerm ts t → (∀ u ∈ next, u.startsUnit = false) → (∀ u ∈ next, u.kind ≠ .rightParen) →
    StopsUnit (.leftParen :: ts) (some .rightParen) next
  | name {next : Option Token} :
    (∀ u ∈ next, u.kind ≠ .identifier) → StopsUnit [.lambda] (some .identifier) next
  | dot {name : String} {next : Option Token} :
    (∀ u ∈ next, u.kind ≠ .dot) → StopsUnit [.lambda, .ident name] (some .dot) next
  | bodyStart {name : String} {next : Option Token} :
    (∀ u ∈ next, u.startsUnit = false) → StopsUnit [.lambda, .ident name, .dot] none next
  | body {name : String} {ts : List Token} {wanted : Option TokenKind} {next : Option Token} :
    StopsUnit ts wanted next → StopsUnit (.lambda :: .ident name :: .dot :: ts) wanted next

/-- Reading the bindings of a `let` takes the tokens and stops at `next`. -/
inductive StopsBindings : List Token → Option TokenKind → Option Token → Prop
  | name {next : Option Token} :
    (∀ u ∈ next, u.kind ≠ .identifier) → StopsBindings [] (some .identifier) next
  | equals {name : String} {next : Option Token} :
    (∀ u ∈ next, u.kind ≠ .equals) → StopsBindings [.ident name] (some .equals) next
  | value {name : String} {ts : List Token} {wanted : Option TokenKind} {next : Option Token} :
    StopsTerm ts wanted next → StopsBindings (.ident name :: .equals :: ts) wanted next
  | semicolon {name : String} {ts : List Token} {value : Term} {next : Option Token} :
    DerivesTerm ts value → (∀ u ∈ next, u.startsUnit = false) →
    (∀ u ∈ next, u.kind ≠ .semicolon) →
    StopsBindings (.ident name :: .equals :: ts) (some .semicolon) next
  | more {name : String} {ts us : List Token} {value : Term} {wanted : Option TokenKind}
    {next : Option Token} :
    DerivesTerm ts value → (us = [] → next ≠ some .inWord) → StopsBindings us wanted next →
    StopsBindings (.ident name :: .equals :: (ts ++ .semicolon :: us)) wanted next

end

/-! ## Every failure is a stop -/

mutual

theorem StopsTerm.of_outcome {ts rest : List Token} {wanted : Option TokenKind}
    (failed : outcome (term ts) = .error ⟨wanted, rest⟩) :
    ∃ taken, ts = taken ++ rest ∧ StopsTerm taken wanted rest.head? := by
  by_cases noLet : ∀ rest, ts ≠ .letWord :: rest
  · rw [outcome_term_units noLet] at failed
    rcases bind_eq_error.1 failed with unitFailed | ⟨⟨first, rest₁⟩, unitRead, argsFailed⟩
    · rcases StopsUnit.of_outcome unitFailed with ⟨ends, rfl, rfl⟩ | ⟨taken, rfl, stops⟩
      · refine ⟨[], rfl, .start ?_⟩
        intro u here
        refine ⟨?_, ends u here⟩
        rintro rfl
        obtain ⟨us, rfl⟩ := List.head?_eq_some_iff.1 here
        exact noLet us rfl
      · exact ⟨taken, rfl, .unit stops⟩
    · have shorter := length_lt_of_outcome unitRead
      obtain ⟨takenFirst, rfl, derivesFirst⟩ := DerivesUnit.of_outcome unitRead
      obtain ⟨taken, rfl, stops⟩ := StopsTerm.of_outcome_arguments (.one derivesFirst) argsFailed
      exact ⟨takenFirst ++ taken, by simp, stops⟩
  · obtain ⟨ts₁, rfl⟩ : ∃ ts₁, ts = .letWord :: ts₁ := by simpa using noLet
    rw [outcome_term_let] at failed
    rcases bind_eq_error.1 failed with boundFailed | ⟨⟨bound, rest₁⟩, boundRead, failed₁⟩
    · obtain ⟨taken, rfl, stops⟩ := StopsBindings.of_outcome boundFailed
      exact ⟨.letWord :: taken, rfl, .bindings stops⟩
    · have shorter := length_lt_of_outcome boundRead
      obtain ⟨takenBound, rfl, derivesBound⟩ := DerivesBindings.of_outcome boundRead
      rcases bind_eq_error.1 failed₁ with bodyFailed | ⟨_, -, failed₂⟩
      · obtain ⟨taken, rfl, stops⟩ := StopsTerm.of_outcome bodyFailed
        exact ⟨.letWord :: (takenBound ++ .inWord :: taken), by simp, .body derivesBound stops⟩
      · cases failed₂
termination_by 3 * ts.length + 2

/-- A unit that starts and fails after the units `before` stops the term that they begin. -/
theorem StopsTerm.of_outcome_arguments {before ts rest : List Token} {head : Term}
    {wanted : Option TokenKind} (derivesHead : DerivesUnits before head)
    (failed : outcome (arguments head ts) = .error ⟨wanted, rest⟩) :
    ∃ taken, ts = taken ++ rest ∧ StopsTerm (before ++ taken) wanted rest.head? := by
  rcases noUnit_or_startsUnit ts with ends | ⟨u, us, rfl, starts⟩
  · rw [outcome_arguments_of_noUnit ends] at failed
    cases failed
  · rw [outcome_arguments_start starts] at failed
    rcases bind_eq_error.1 failed with unitFailed | ⟨⟨argument, rest₁⟩, unitRead, argsFailed⟩
    · rcases StopsUnit.of_outcome unitFailed with ⟨ends, -⟩ | ⟨taken, split, stops⟩
      · rw [ends u rfl] at starts
        cases starts
      · exact ⟨taken, split, .argument derivesHead stops⟩
    · have shorter := length_lt_of_outcome unitRead
      obtain ⟨takenUnit, split, derivesUnit⟩ := DerivesUnit.of_outcome unitRead
      obtain ⟨taken, rfl, stops⟩ :=
        StopsTerm.of_outcome_arguments (.juxtapose derivesHead derivesUnit) argsFailed
      exact ⟨takenUnit ++ taken, by simp [split], by simpa using stops⟩
termination_by 3 * ts.length + 1

/-- A unit fails at once if none starts. -/
theorem StopsUnit.of_outcome {ts rest : List Token} {wanted : Option TokenKind}
    (failed : outcome (Reader.unit ts) = .error ⟨wanted, rest⟩) :
    (NoUnit ts ∧ wanted = none ∧ rest = ts) ∨
      ∃ taken, ts = taken ++ rest ∧ StopsUnit taken wanted rest.head? := by
  rcases noUnit_or_startsUnit ts with ends | ⟨u, us, rfl, starts⟩
  · rw [outcome_unit_of_noUnit ends] at failed
    cases failed
    exact .inl ⟨ends, rfl, rfl⟩
  · refine .inr ?_
    rcases Token.eq_of_startsUnit starts with ⟨name, rfl⟩ | rfl | rfl
    · rw [outcome_unit_ident] at failed
      cases failed
    · rw [outcome_unit_paren] at failed
      rcases bind_eq_error.1 failed with innerFailed | ⟨⟨inner, rest₁⟩, innerRead, failed₁⟩
      · obtain ⟨taken, rfl, stops⟩ := StopsTerm.of_outcome innerFailed
        exact ⟨.leftParen :: taken, rfl, .inner stops⟩
      · rcases bind_eq_error.1 failed₁ with closeFailed | ⟨_, -, failed₂⟩
        · obtain ⟨stop, other⟩ := outcome_expect_eq_error.1 closeFailed
          cases stop
          have ends := noUnit_of_outcome_term innerRead
          obtain ⟨taken, rfl, derives⟩ := DerivesTerm.of_outcome innerRead
          exact ⟨.leftParen :: taken, rfl, .close derives ends other⟩
        · cases failed₂
    · rw [outcome_unit_lambda] at failed
      rcases bind_eq_error.1 failed with nameFailed | ⟨⟨name, rest₁⟩, named, failed₁⟩
      · obtain ⟨stop, other⟩ := outcome_expectName_eq_error.1 nameFailed
        cases stop
        exact ⟨[.lambda], rfl, .name other⟩
      · cases outcome_expectName_eq_ok.1 named
        rcases bind_eq_error.1 failed₁ with dotFailed | ⟨rest₂, dotted, failed₂⟩
        · obtain ⟨stop, other⟩ := outcome_expect_eq_error.1 dotFailed
          cases stop
          exact ⟨[.lambda, .ident name], rfl, .dot other⟩
        · cases (outcome_expect_kind_eq_ok .dot (by decide)).1 dotted
          rcases bind_eq_error.1 failed₂ with bodyFailed | ⟨_, -, failed₃⟩
          · rcases StopsUnit.of_outcome bodyFailed with ⟨ends, rfl, rfl⟩ | ⟨taken, rfl, stops⟩
            · exact ⟨[.lambda, .ident name, .dot], rfl, .bodyStart ends⟩
            · exact ⟨.lambda :: .ident name :: .dot :: taken, rfl, .body stops⟩
          · cases failed₃
termination_by 3 * ts.length

theorem StopsBindings.of_outcome {ts rest : List Token} {wanted : Option TokenKind}
    (failed : outcome (bindings ts) = .error ⟨wanted, rest⟩) :
    ∃ taken, ts = taken ++ rest ∧ StopsBindings taken wanted rest.head? := by
  rw [outcome_bindings] at failed
  rcases bind_eq_error.1 failed with nameFailed | ⟨⟨name, rest₁⟩, named, failed₁⟩
  · obtain ⟨stop, other⟩ := outcome_expectName_eq_error.1 nameFailed
    cases stop
    exact ⟨[], rfl, .name other⟩
  cases outcome_expectName_eq_ok.1 named
  rcases bind_eq_error.1 failed₁ with equalsFailed | ⟨rest₂, equalled, failed₂⟩
  · obtain ⟨stop, other⟩ := outcome_expect_eq_error.1 equalsFailed
    cases stop
    exact ⟨[.ident name], rfl, .equals other⟩
  cases (outcome_expect_kind_eq_ok .equals (by decide)).1 equalled
  rcases bind_eq_error.1 failed₂ with valueFailed | ⟨⟨value, rest₃⟩, valueRead, failed₃⟩
  · obtain ⟨taken, rfl, stops⟩ := StopsTerm.of_outcome valueFailed
    exact ⟨.ident name :: .equals :: taken, rfl, .value stops⟩
  have shorter := length_lt_of_outcome valueRead
  have ends := noUnit_of_outcome_term valueRead
  obtain ⟨takenValue, rfl, derivesValue⟩ := DerivesTerm.of_outcome valueRead
  rcases bind_eq_error.1 failed₃ with semicolonFailed | ⟨rest₄, ended, failed₄⟩
  · obtain ⟨stop, other⟩ := outcome_expect_eq_error.1 semicolonFailed
    cases stop
    exact ⟨.ident name :: .equals :: takenValue, rfl, .semicolon derivesValue ends other⟩
  cases (outcome_expect_kind_eq_ok .semicolon (by decide)).1 ended
  dsimp only at failed₄
  split at failed₄
  · cases failed₄
  · next notIn =>
    rcases bind_eq_error.1 failed₄ with moreFailed | ⟨_, -, failed₅⟩
    · obtain ⟨taken, rfl, stops⟩ := StopsBindings.of_outcome moreFailed
      refine ⟨.ident name :: .equals :: (takenValue ++ .semicolon :: taken), by simp,
        .more derivesValue ?_ stops⟩
      intro none inFound
      obtain ⟨us, rfl⟩ := List.head?_eq_some_iff.1 inFound
      subst none
      exact notIn us rfl
    · cases failed₅
termination_by 3 * ts.length

end

/-! ## A stop looks no further than the offending token -/

/-- After units, a term is read on as their arguments are. -/
theorem DerivesUnits.outcome_term_eq {ts : List Token} {t : Term} (derives : DerivesUnits ts t)
    (rest : List Token) : outcome (term (ts ++ rest)) = outcome (arguments t rest) := by
  match derives with
  | .one derivesUnit =>
    have unitRead := derivesUnit.outcome_eq rest
    have noLet := ne_letWord_of_startsUnit (startsUnit_of_outcome_unit unitRead)
    rw [outcome_term_units noLet, unitRead]
    rfl
  | @DerivesUnits.juxtapose ts us function argument derivesFunction derivesArgument =>
    have argumentRead := derivesArgument.outcome_eq rest
    obtain ⟨u, rest₁, same, starts⟩ := startsUnit_of_outcome_unit argumentRead
    rw [List.append_assoc, derivesFunction.outcome_term_eq, same, outcome_arguments_start starts,
      ← same, argumentRead]
    rfl

theorem StopsUnit.startsUnit {taken : List Token} {wanted : Option TokenKind}
    {next : Option Token} (stops : StopsUnit taken wanted next) (rest : List Token) :
    ∃ u us, taken ++ rest = u :: us ∧ u.startsUnit = true := by
  cases stops <;> exact ⟨_, _, rfl, rfl⟩

/-- The body of a binder stops the binder. -/
theorem StopsUnit.outcome_binder {name : String} {ts : List Token} {stop : Stop}
    (failed : outcome (Reader.unit ts) = .error stop) :
    outcome (Reader.unit (.lambda :: .ident name :: .dot :: ts)) = .error stop := by
  rw [outcome_unit_lambda]
  refine bind_eq_error.2 (.inr ⟨_, outcome_expectName_eq_ok.2 rfl, ?_⟩)
  refine bind_eq_error.2 (.inr ⟨_, (outcome_expect_kind_eq_ok .dot (by decide)).2 rfl, ?_⟩)
  exact bind_eq_error.2 (.inl failed)

/-- After the name and `=` of a binding its value is read. -/
theorem outcome_bindings_value (name : String) (ts : List Token) :
    outcome (bindings (.ident name :: .equals :: ts)) = (do
      let (value, rest₃) ← outcome (term ts)
      let rest₄ ← outcome (expect .semicolon rest₃)
      match rest₄ with
      | .inWord :: rest₅ => return ([(name, value)], rest₅)
      | rest₄ =>
        let (more, rest₅) ← outcome (bindings rest₄)
        return ((name, value) :: more, rest₅)) := by
  rw [outcome_bindings]
  rfl

mutual

theorem StopsTerm.outcome_eq {taken : List Token} {wanted : Option TokenKind}
    {next : Option Token} (stops : StopsTerm taken wanted next) {rest : List Token}
    (here : rest.head? = next) : outcome (term (taken ++ rest)) = .error ⟨wanted, rest⟩ := by
  match stops with
  | .start other =>
    subst here
    have noLet : ∀ us, rest ≠ .letWord :: us := by
      rintro us rfl
      exact (other .letWord rfl).1 rfl
    have ends : NoUnit rest := fun u first => (other u first).2
    rw [List.nil_append, outcome_term_units noLet, outcome_unit_of_noUnit ends]
    rfl
  | .unit stopsUnit =>
    have noLet := ne_letWord_of_startsUnit (stopsUnit.startsUnit rest)
    rw [outcome_term_units noLet, stopsUnit.outcome_eq here]
    rfl
  | .argument derives stopsUnit =>
    obtain ⟨u, us, same, starts⟩ := stopsUnit.startsUnit rest
    rw [List.append_assoc, derives.outcome_term_eq, same, outcome_arguments_start starts, ← same,
      stopsUnit.outcome_eq here]
    rfl
  | .bindings stopsBound =>
    rw [List.cons_append, outcome_term_let, stopsBound.outcome_eq here]
    rfl
  | .body derivesBound stopsBody =>
    rw [List.cons_append, List.append_assoc, List.cons_append, outcome_term_let]
    refine bind_eq_error.2 (.inr ⟨_, derivesBound.outcome_eq _, ?_⟩)
    exact bind_eq_error.2 (.inl (stopsBody.outcome_eq here))

theorem StopsUnit.outcome_eq {taken : List Token} {wanted : Option TokenKind}
    {next : Option Token} (stops : StopsUnit taken wanted next) {rest : List Token}
    (here : rest.head? = next) :
    outcome (Reader.unit (taken ++ rest)) = .error ⟨wanted, rest⟩ := by
  match stops with
  | .inner stopsInner =>
    rw [List.cons_append, outcome_unit_paren, stopsInner.outcome_eq here]
    rfl
  | .close derives ends other =>
    subst here
    rw [List.cons_append, outcome_unit_paren]
    refine bind_eq_error.2 (.inr ⟨_, derives.outcome_eq rest ends, ?_⟩)
    exact bind_eq_error.2 (.inl (outcome_expect_eq_error.2 ⟨rfl, other⟩))
  | .name other =>
    subst here
    rw [List.cons_append, outcome_unit_lambda]
    exact bind_eq_error.2 (.inl (outcome_expectName_eq_error.2 ⟨rfl, other⟩))
  | .dot other =>
    subst here
    rw [List.cons_append, outcome_unit_lambda]
    refine bind_eq_error.2 (.inr ⟨_, outcome_expectName_eq_ok.2 rfl, ?_⟩)
    exact bind_eq_error.2 (.inl (outcome_expect_eq_error.2 ⟨rfl, other⟩))
  | .bodyStart ends =>
    subst here
    exact StopsUnit.outcome_binder (outcome_unit_of_noUnit ends)
  | .body stopsBody => exact StopsUnit.outcome_binder (stopsBody.outcome_eq here)

theorem StopsBindings.outcome_eq {taken : List Token} {wanted : Option TokenKind}
    {next : Option Token} (stops : StopsBindings taken wanted next) {rest : List Token}
    (here : rest.head? = next) : outcome (bindings (taken ++ rest)) = .error ⟨wanted, rest⟩ := by
  match stops with
  | .name other =>
    subst here
    rw [List.nil_append, outcome_bindings]
    exact bind_eq_error.2 (.inl (outcome_expectName_eq_error.2 ⟨rfl, other⟩))
  | .equals other =>
    subst here
    rw [List.cons_append, outcome_bindings]
    refine bind_eq_error.2 (.inr ⟨_, outcome_expectName_eq_ok.2 rfl, ?_⟩)
    exact bind_eq_error.2 (.inl (outcome_expect_eq_error.2 ⟨rfl, other⟩))
  | .value stopsValue =>
    rw [List.cons_append, List.cons_append, outcome_bindings_value]
    exact bind_eq_error.2 (.inl (stopsValue.outcome_eq here))
  | .semicolon derives ends other =>
    subst here
    rw [List.cons_append, List.cons_append, outcome_bindings_value]
    refine bind_eq_error.2 (.inr ⟨_, derives.outcome_eq rest ends, ?_⟩)
    exact bind_eq_error.2 (.inl (outcome_expect_eq_error.2 ⟨rfl, other⟩))
  | @StopsBindings.more name ts us value wanted next derives notIn stopsMore =>
    have moreFailed := stopsMore.outcome_eq here
    -- The next binding is read only if the word `in` does not stand in its place.
    have another : ∀ us', us ++ rest = .inWord :: us' → False := by
      intro us' front
      have first : us = [] := by
        cases stopsMore with
        | name _ => rfl
        | _ => cases front
      subst first
      rw [List.nil_append] at front
      exact notIn rfl (by rw [← here, front, List.head?_cons])
    rw [List.cons_append, List.cons_append, List.append_assoc, List.cons_append,
      outcome_bindings_value]
    refine bind_eq_error.2 (.inr ⟨_, derives.outcome_eq _ (.cons rfl), ?_⟩)
    refine bind_eq_error.2
      (.inr ⟨_, (outcome_expect_kind_eq_ok .semicolon (by decide)).2 rfl, ?_⟩)
    split
    · next same => exact (another _ same).elim
    · exact bind_eq_error.2 (.inl moreFailed)

end

/-! ## What was taken can be completed -/

/-- Some sentence of the grammar begins with the tokens. -/
def Viable (ts : List Token) : Prop := ∃ more t, DerivesTerm (ts ++ more) t

mutual

theorem StopsTerm.viable {taken : List Token} {wanted : Option TokenKind} {next : Option Token}
    (stops : StopsTerm taken wanted next) : Viable taken := by
  match stops with
  | .start _ => exact ⟨[.ident "x"], _, .units (.one (.ident "x"))⟩
  | .unit stopsUnit =>
    obtain ⟨more, t, derives⟩ := stopsUnit.completes
    exact ⟨more, t, .units (.one derives)⟩
  | .argument derivesFunction stopsUnit =>
    obtain ⟨more, t, derives⟩ := stopsUnit.completes
    exact ⟨more, _, by simpa using .units (.juxtapose derivesFunction derives)⟩
  | .bindings stopsBound =>
    obtain ⟨more, bound, derives⟩ := stopsBound.completes
    have whole := DerivesTerm.letIn derives (.units (.one (.ident "x")))
    exact ⟨more ++ [.inWord, .ident "x"], _, by simpa using whole⟩
  | .body derivesBound stopsBody =>
    obtain ⟨more, t, derives⟩ := stopsBody.viable
    exact ⟨more, _, by simpa using DerivesTerm.letIn derivesBound derives⟩

theorem StopsUnit.completes {taken : List Token} {wanted : Option TokenKind}
    {next : Option Token} (stops : StopsUnit taken wanted next) :
    ∃ more t, DerivesUnit (taken ++ more) t := by
  match stops with
  | .inner stopsInner =>
    obtain ⟨more, t, derives⟩ := stopsInner.viable
    exact ⟨more ++ [.rightParen], t, by simpa using DerivesUnit.paren derives⟩
  | .close derives _ _ => exact ⟨[.rightParen], _, .paren derives⟩
  | .name _ => exact ⟨[.ident "x", .dot, .ident "x"], _, .binder (.ident "x")⟩
  | .dot _ => exact ⟨[.dot, .ident "x"], _, .binder (.ident "x")⟩
  | .bodyStart _ => exact ⟨[.ident "x"], _, .binder (.ident "x")⟩
  | .body stopsBody =>
    obtain ⟨more, t, derives⟩ := stopsBody.completes
    exact ⟨more, _, .binder derives⟩

theorem StopsBindings.completes {taken : List Token} {wanted : Option TokenKind}
    {next : Option Token} (stops : StopsBindings taken wanted next) :
    ∃ more bound, DerivesBindings (taken ++ more) bound := by
  have anyValue : DerivesTerm [.ident "x"] (.var "x") := .units (.one (.ident "x"))
  match stops with
  | .name _ => exact ⟨[.ident "x", .equals, .ident "x", .semicolon], _, .one anyValue⟩
  | .equals _ => exact ⟨[.equals, .ident "x", .semicolon], _, .one anyValue⟩
  | .value stopsValue =>
    obtain ⟨more, t, derives⟩ := stopsValue.viable
    exact ⟨more ++ [.semicolon], _, by simpa using DerivesBindings.one derives⟩
  | .semicolon derives _ _ => exact ⟨[.semicolon], _, .one derives⟩
  | .more derivesValue _ stopsMore =>
    obtain ⟨more, bound, derives⟩ := stopsMore.completes
    exact ⟨more, _, by simpa using DerivesBindings.more derivesValue derives⟩

end

/-! ## Whole sources -/

/-- A refusal splits the tokens.  Those before the offending one can be completed, and whatever
follows the offending one, the tokens are refused there and for the same reason. -/
theorem exists_viable_of_wholeTerm_eq_error {ts rest : List Token} {wanted : Option TokenKind}
    (refused : wholeTerm ts = .error ⟨wanted, rest⟩) :
    ∃ taken, ts = taken ++ rest ∧ Viable taken ∧
      ∀ more : List Token, more.head? = rest.head? →
        wholeTerm (taken ++ more) = .error ⟨wanted, more⟩ := by
  rw [wholeTerm_eq] at refused
  rcases bind_eq_error.1 refused with termFailed | ⟨⟨t, rest₁⟩, termRead, refused₁⟩
  · obtain ⟨taken, rfl, stops⟩ := StopsTerm.of_outcome termFailed
    refine ⟨taken, rfl, stops.viable, ?_⟩
    intro more here
    rw [wholeTerm_eq, stops.outcome_eq here]
    rfl
  · -- The tokens begin with a whole term, and the offending token cannot go on with it.
    have ends := noUnit_of_outcome_term termRead
    obtain ⟨taken, rfl, derives⟩ := DerivesTerm.of_outcome termRead
    dsimp only at refused₁
    split at refused₁
    · cases refused₁
    · next left =>
      cases refused₁
      refine ⟨taken, rfl, ⟨[], t, by simpa using derives⟩, ?_⟩
      intro more here
      have endsHere : NoUnit more := by
        intro u first
        exact ends u (here ▸ first)
      rw [wholeTerm_eq, derives.outcome_eq more endsHere]
      cases more with
      | nil =>
        have none : rest = [] := List.head?_eq_none_iff.1 here.symm
        exact (left none).elim
      | cons u more => rfl

end Stepwise
