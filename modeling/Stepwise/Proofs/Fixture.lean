import Stepwise.Fixture
import Stepwise.Proofs.Grammar.ReadBack

/-!
# What the checks of golden steps decide

A fixture holds the term that it reads as, and trimming makes no difference
(`Fixture.term?_eq_some_iff`).  A check can pass only if the strategy is known and the input reads
as a term.  Which of the two checks does is then decided by the step alone: the check of a stuck
term passes if the step is stuck (`Fixture.stuckHolds_iff`), and the check of a step passes if the
step gives the term that the output reads as (`Fixture.stepHolds_iff`).

What a step gives reads back from its printed form, so an input that is not stuck has an output for
which the check passes.  The two checks therefore divide the inputs between them
(`Fixture.checks_divide_inputs`).
-/

namespace Stepwise

namespace Fixture

variable {name input output source : String} {strategy : Strategy} {t u : Term}

/-- A fixture holds the term that it reads as. -/
theorem term?_eq_some_iff : term? source = some t ↔ Term.parse source = .ok t := by
  have toOption {r : Except SyntaxError Term} : r.toOption = some t ↔ r = .ok t := by
    cases r with
    | error e => exact ⟨nofun, nofun⟩
    | ok u => exact ⟨fun same => congrArg _ (Option.some.inj same), fun same => same ▸ rfl⟩
  rw [term?, toOption]
  exact Term.parseChars_eq_ok_congr (Token.scan_trimBlanks source.toList)

theorem term?_eq_none_iff : term? source = none ↔ ∃ e, Term.parse source = .error e := by
  rw [Option.eq_none_iff_forall_ne_some]
  simp only [ne_eq, term?_eq_some_iff]
  cases Term.parse source with
  | error e => exact ⟨fun _ => ⟨e, rfl⟩, fun _ => nofun⟩
  | ok t => exact ⟨fun refused => (refused t rfl).elim, nofun⟩

/-! ## The checks when the strategy is known and the input reads -/

section Reads

variable (known : Strategy.ofName? name = some strategy) (reads : Term.parse input = .ok t)

include known reads

/-- The check of a stuck term passes exactly if the step is stuck. -/
theorem stuckHolds_iff :
    stuckHolds name input = true ↔ ∃ stuck, strategy.step t = .error stuck := by
  rw [stuckHolds, known, term?_eq_some_iff.2 reads]
  dsimp only
  cases strategy.step t with
  | error stuck => exact ⟨fun _ => ⟨stuck, rfl⟩, fun _ => rfl⟩
  | ok u => exact ⟨nofun, nofun⟩

/-- The check of a step passes exactly if the step gives what the output reads as. -/
theorem stepHolds_iff : stepHolds name input output = true ↔
    ∃ u, strategy.step t = .ok u ∧ Term.parse output = .ok u := by
  rw [stepHolds, known, term?_eq_some_iff.2 reads]
  cases held : term? output with
  | none =>
    obtain ⟨e, refused⟩ := term?_eq_none_iff.1 held
    rw [refused]
    exact ⟨nofun, nofun⟩
  | some after =>
    rw [term?_eq_some_iff.1 held]
    dsimp only
    cases strategy.step t with
    | error stuck => exact ⟨nofun, nofun⟩
    | ok u =>
      rw [decide_eq_true_eq]
      constructor
      · rintro rfl
        exact ⟨u, rfl, rfl⟩
      · rintro ⟨v, result, expects⟩
        rw [Except.ok.inj result, Except.ok.inj expects]

end Reads

/-! ## The checks when there is nothing to check -/

section Refused

variable (refused : Strategy.ofName? name = none ∨ ∃ e, Term.parse input = .error e)

include refused

theorem stuckHolds_of_refused : stuckHolds name input = false := by
  rw [← term?_eq_none_iff] at refused
  unfold stuckHolds
  rcases refused with unknown | malformed
  · rw [unknown]
  · rw [malformed]
    cases Strategy.ofName? name <;> rfl

theorem stepHolds_of_refused (output : String) : stepHolds name input output = false := by
  rw [← term?_eq_none_iff] at refused
  unfold stepHolds
  rcases refused with unknown | malformed
  · rw [unknown]
  · rw [malformed]
    cases Strategy.ofName? name <;> rfl

end Refused

/-- The two checks divide the inputs.  Let the strategy be known and the input read as `t`.  Either
the step is stuck, the check of a stuck term passes, and the check of a step fails for every output;
or the step gives a term, the check of a stuck term fails, and the check of a step passes for the
printed form of that term and for exactly the outputs that read as it.  If the strategy is unknown
or the input does not read, both checks fail, whatever the output. -/
theorem checks_divide_inputs (name input : String) :
    (∀ strategy t, Strategy.ofName? name = some strategy → Term.parse input = .ok t →
      ((∃ stuck, strategy.step t = .error stuck) ∧ stuckHolds name input = true ∧
        ∀ output, stepHolds name input output = false) ∨
      (stuckHolds name input = false ∧
        ∃ u, strategy.step t = .ok u ∧ stepHolds name input u.text = true ∧
          ∀ output, stepHolds name input output = true ↔ Term.parse output = .ok u)) ∧
    (Strategy.ofName? name = none ∨ (∃ e, Term.parse input = .error e) →
      stuckHolds name input = false ∧ ∀ output, stepHolds name input output = false) := by
  constructor
  · intro strategy t known reads
    cases stepped : strategy.step t with
    | error stuck =>
      refine .inl ⟨⟨stuck, rfl⟩, (stuckHolds_iff known reads).2 ⟨stuck, stepped⟩, ?_⟩
      intro output
      rw [← Bool.not_eq_true, stepHolds_iff known reads, stepped]
      nofun
    | ok u =>
      have notStuck : stuckHolds name input = false := by
        rw [← Bool.not_eq_true, stuckHolds_iff known reads, stepped]
        nofun
      have passes (output : String) :
          stepHolds name input output = true ↔ Term.parse output = .ok u := by
        rw [stepHolds_iff known reads, stepped]
        constructor
        · rintro ⟨v, same, expects⟩
          rwa [Except.ok.inj same]
        · intro expects
          exact ⟨u, rfl, expects⟩
      have readsBack := Term.parse_text_of_step reads stepped
      exact .inr ⟨notStuck, u, rfl, (passes u.text).2 readsBack, passes⟩
  · intro refused
    exact ⟨stuckHolds_of_refused refused, stepHolds_of_refused refused⟩

/-- The check of a step passes for a blank line around `λz.z`, which is what `λz.((λx.x) z)` steps
to by normal order.  Under call-by-name the application of `x` to `y` is stuck and no output passes,
and no strategy is called `eager`. -/
theorem checks_divide_inputs_step_stuck_unknown :
    stepHolds "no" "\\z.((\\x.x) z)\n" "\n\\z.z\n" = true ∧
      stuckHolds "cbn" " x y" = true ∧ (∀ output, stepHolds "cbn" " x y" output = false) ∧
      stuckHolds "eager" "x" = false ∧ ∀ output, stepHolds "eager" "x" output = false := by
  have steps : Term.parse "\\z.((\\x.x) z)\n" =
      .ok (.abs "z" (.app (.abs "x" (.var "x")) (.var "z"))) := by decide +kernel
  have stuck : Term.parse " x y" = .ok (.app (.var "x") (.var "y")) := by decide +kernel
  have unknown := (checks_divide_inputs "eager" "x").2 (.inl rfl)
  rcases (checks_divide_inputs "no" _).1 .normalOrder _ rfl steps with
    ⟨⟨_, fails⟩, -⟩ | ⟨-, u, result, -, passes⟩
  · cases fails
  rcases (checks_divide_inputs "cbn" _).1 .callByName _ rfl stuck with
    ⟨-, isStuck, noStep⟩ | ⟨-, v, absurd, -⟩
  · cases result
    exact ⟨(passes _).2 (by decide +kernel), isStuck, noStep, unknown⟩
  · cases absurd

end Fixture

end Stepwise
