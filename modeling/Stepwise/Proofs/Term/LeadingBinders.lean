import Stepwise.Proofs.Term.Run

/-!
# Leading binders

A term is a list of leading binders in front of a term that is no abstraction.  A step of normal
order goes below all the leading binders and there does what a step at the root does, with the same
result or stuck at the same application (`Term.normalOrder_foldr_abs`).

What is put back below the leading binders may begin with further ones.  Along a run of normal order
the leading binders therefore stay and are only added to, and the run can differ from that of steps
at the root only from the first abstraction on (`Term.normalOrder_steps_below_binders`).
-/

namespace Stepwise

namespace Term

/-- The names of the binders that the term begins with, outermost first. -/
def leadingBinders : Term → List String
  | abs z body => z :: body.leadingBinders
  | _ => []

/-- The term is an abstraction. -/
def IsAbs : Term → Prop
  | abs _ _ => True
  | _ => False

instance : DecidablePred IsAbs
  | var _ => .isFalse id
  | abs _ _ => .isTrue trivial
  | app _ _ => .isFalse id

variable {t u r : Term} {zs : List String}

/-! ## Taking a term apart -/

theorem exists_eq_foldr_abs (t : Term) :
    ∃ (zs : List String) (u : Term), t = zs.foldr abs u ∧ ¬ u.IsAbs := by
  induction t with
  | var x => exact ⟨[], var x, rfl, id⟩
  | abs z body ih =>
    obtain ⟨zs, u, rfl, plain⟩ := ih
    exact ⟨z :: zs, u, rfl, plain⟩
  | app left right => exact ⟨[], app left right, rfl, id⟩

theorem leadingBinders_foldr_abs (zs : List String) (u : Term) :
    (zs.foldr abs u).leadingBinders = zs ++ u.leadingBinders := by
  induction zs with
  | nil => rfl
  | cons z zs ih => rw [List.foldr_cons, leadingBinders, ih, List.cons_append]

theorem leadingBinders_of_not_isAbs (plain : ¬ u.IsAbs) : u.leadingBinders = [] := by
  cases u with
  | var x => rfl
  | abs z body => exact (plain trivial).elim
  | app left right => rfl

/-! ## One step -/

/-- A step at the root fails exactly on an application of anything but an abstraction, and fails
with that application. -/
theorem callByName_eq_error_iff {stuck : Stuck} :
    u.callByName = .error stuck ↔ stuck.term = u ∧ ¬ stuck.left.IsAbs := by
  constructor
  · intro failed
    cases u with
    | var x => cases failed
    | abs z body => cases failed
    | app left right =>
      cases left with
      | var x =>
        cases failed
        exact ⟨rfl, id⟩
      | abs z body => cases failed
      | app function argument =>
        cases failed
        exact ⟨rfl, id⟩
  · intro stuckHere
    obtain ⟨rfl, plain⟩ := stuckHere
    obtain ⟨left, right⟩ := stuck
    cases left with
    | var x => rfl
    | abs z body => exact (plain trivial).elim
    | app function argument => rfl

theorem normalOrder_eq_callByName (plain : ¬ u.IsAbs) : u.normalOrder = u.callByName := by
  cases u with
  | var x => rfl
  | abs z body => exact (plain trivial).elim
  | app left right => rfl

/-- Normal order is a step at the root of what stands below the leading binders. -/
theorem normalOrder_foldr_abs (zs : List String) (plain : ¬ u.IsAbs) :
    (zs.foldr abs u).normalOrder = u.callByName.map fun v => zs.foldr abs v := by
  induction zs with
  | nil =>
    rw [List.foldr_nil, normalOrder_eq_callByName plain]
    cases u.callByName with
    | error stuck => rfl
    | ok v => rfl
  | cons z zs ih =>
    rw [List.foldr_cons, normalOrder, ih]
    cases u.callByName with
    | error stuck => rfl
    | ok v => rfl

theorem normalOrder_foldr_abs_eq_ok_iff (plain : ¬ u.IsAbs) :
    (zs.foldr abs u).normalOrder = .ok r ↔ ∃ v, u.callByName = .ok v ∧ zs.foldr abs v = r := by
  rw [normalOrder_foldr_abs zs plain]
  cases u.callByName with
  | error stuck => simp [Except.map]
  | ok v => simp [Except.map]

/-- A step keeps the leading binders and may uncover more. -/
theorem leadingBinders_isPrefix_of_normalOrder (stepped : t.normalOrder = .ok r) :
    t.leadingBinders <+: r.leadingBinders := by
  obtain ⟨zs, u, rfl, plain⟩ := exists_eq_foldr_abs t
  obtain ⟨v, -, rfl⟩ := (normalOrder_foldr_abs_eq_ok_iff plain).1 stepped
  rw [leadingBinders_foldr_abs, leadingBinders_foldr_abs, leadingBinders_of_not_isAbs plain,
    List.append_nil]
  exact List.prefix_append zs v.leadingBinders

/-! ## Runs -/

/-- The leading binders of a term of a run are the first ones of every later term. -/
theorem leadingBinders_isPrefix_of_run {a b : Term} {m n : Nat} (le : m ≤ n)
    (early : runSteps normalOrder m t = .ok a) (late : runSteps normalOrder n t = .ok b) :
    a.leadingBinders <+: b.leadingBinders := by
  have stepRelated : ∀ a b : Term, a.normalOrder = .ok b → a.leadingBinders <+: b.leadingBinders :=
    fun _ _ => leadingBinders_isPrefix_of_normalOrder
  exact runSteps_related stepRelated (fun _ => List.prefix_rfl) List.IsPrefix.trans le early late

/-- The strategies differ on abstractions only.  As long as the run of one of them meets none, the
other has the same run. -/
theorem normalOrder_run_eq_callByName_run (strategy : Strategy) {n : Nat}
    (plain : ∀ k < n, ∀ r, runSteps strategy.step k t = .ok r → ¬ r.IsAbs) :
    runSteps normalOrder n t = runSteps callByName n t := by
  cases strategy with
  | normalOrder =>
    apply runSteps_congr
    intro k lt r reached
    exact normalOrder_eq_callByName (plain k lt r reached)
  | callByName =>
    symm
    apply runSteps_congr
    intro k lt r reached
    exact (normalOrder_eq_callByName (plain k lt r reached)).symm

/-- Normal order is call-by-name below the leading binders.  If the term is `λz₁…λzₖ.u` and `u` is
no abstraction, a step of normal order puts the result of a step at the root of `u` below the same
binders, or fails as that step does: exactly if `u` is an application of anything but an
abstraction, and with `u` itself.  Along a run of normal order the leading binders of each term are
the first ones of every later term.  As long as the terms that are stepped, in the run of either
strategy, are applications or variables, the run is that of call-by-name. -/
theorem normalOrder_steps_below_binders (t : Term) :
    (∀ zs u, t = zs.foldr abs u → ¬ u.IsAbs → t.leadingBinders = zs ∧
      (∀ v, u.callByName = .ok v → t.normalOrder = .ok (zs.foldr abs v)) ∧
      ∀ stuck, (u.callByName = .error stuck → t.normalOrder = .error stuck) ∧
        (u.callByName = .error stuck ↔ stuck.term = u ∧ ¬ stuck.left.IsAbs)) ∧
    (∀ m n a b, m ≤ n → runSteps normalOrder m t = .ok a → runSteps normalOrder n t = .ok b →
      a.leadingBinders <+: b.leadingBinders) ∧
    ∀ (strategy : Strategy) (n : Nat),
      (∀ k < n, ∀ r, runSteps strategy.step k t = .ok r → ¬ r.IsAbs) →
      ∀ m ≤ n, runSteps normalOrder m t = runSteps callByName m t := by
  refine ⟨?_, ?_, ?_⟩
  · intro zs u written plain
    subst written
    refine ⟨?_, ?_, ?_⟩
    · rw [leadingBinders_foldr_abs, leadingBinders_of_not_isAbs plain, List.append_nil]
    · intro v stepped
      exact (normalOrder_foldr_abs_eq_ok_iff plain).2 ⟨v, stepped, rfl⟩
    · intro stuck
      refine ⟨?_, callByName_eq_error_iff⟩
      intro failed
      rw [normalOrder_foldr_abs zs plain, failed]
      rfl
  · intro m n a b le early late
    exact leadingBinders_isPrefix_of_run le early late
  · intro strategy n plain m le
    apply normalOrder_run_eq_callByName_run strategy
    intro k lt r reached
    exact plain k (Nat.lt_of_lt_of_le lt le) r reached

/-- The step on `λz.((λx.x) λy.(y z))` uncovers the binder `y`, and the next one is stuck at `y z`
below both binders.  From `(λx.(x x)) λx.x` the strategies agree for two steps, which end in an
abstraction. -/
theorem normalOrder_steps_below_binders_until_stuck :
    normalOrder (abs "z" (app (abs "x" (var "x")) (abs "y" (app (var "y") (var "z"))))) =
      .ok (abs "z" (abs "y" (app (var "y") (var "z")))) ∧
    normalOrder (abs "z" (abs "y" (app (var "y") (var "z")))) = .error ⟨var "y", var "z"⟩ ∧
    ["z"] <+: leadingBinders (abs "z" (abs "y" (app (var "y") (var "z")))) ∧
    runSteps normalOrder 2 (app (abs "x" (app (var "x") (var "x"))) (abs "x" (var "x"))) =
      runSteps callByName 2 (app (abs "x" (app (var "x") (var "x"))) (abs "x" (var "x"))) := by
  obtain ⟨one, along, -⟩ := normalOrder_steps_below_binders
    (abs "z" (app (abs "x" (var "x")) (abs "y" (app (var "y") (var "z")))))
  obtain ⟨next, -, -⟩ := normalOrder_steps_below_binders
    (abs "z" (abs "y" (app (var "y") (var "z"))))
  obtain ⟨-, -, alike⟩ := normalOrder_steps_below_binders
    (app (abs "x" (app (var "x") (var "x"))) (abs "x" (var "x")))
  refine ⟨?_, ?_, ?_, ?_⟩
  · exact (one ["z"] _ rfl (by decide)).2.1 _ rfl
  · exact ((next ["z", "y"] _ rfl (by decide)).2.2 _).1 rfl
  · exact along 0 1 _ _ (Nat.zero_le 1) rfl rfl
  · refine alike .callByName 2 ?_ 2 (Nat.le_refl 2)
    intro k lt r reached
    obtain rfl | rfl : k = 0 ∨ k = 1 := by omega
    · cases reached
      decide
    · cases reached
      decide

end Term

end Stepwise
