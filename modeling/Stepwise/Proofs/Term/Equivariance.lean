import Stepwise.Proofs.Term.Naming
import Stepwise.Proofs.Term.Occurrence
import Stepwise.Term.Step

/-!
# Equivariance

The operations on terms compare names and do nothing else with them.  A renaming that tells all
names apart can therefore be done before an operation or after it
(`Term.operations_commute_with_rename`).  A failing step fails before and after, with the renamed
application, and the canonical form does not see the renaming at all: neither its numbers nor its
`_` depend on how a name is spelt.
-/

namespace Stepwise

/-- The stuck application, renamed. -/
def Stuck.rename (f : String → String) (s : Stuck) : Stuck := ⟨s.left.rename f, s.right.rename f⟩

namespace Term

/-- The outcome of a step, renamed: its result, or the application at which it is stuck. -/
def renameOutcome (f : String → String) : Except Stuck Term → Except Stuck Term
  | .ok t => .ok (t.rename f)
  | .error s => .error (s.rename f)

section Injective

variable {f : String → String}

theorem freeNames_rename (injective : Function.Injective f) (t : Term) :
    (t.rename f).freeNames = t.freeNames.map f := by
  induction t with
  | var x => rfl
  | abs x body ih =>
    have kept : ∀ y ∈ body.freeNames, decide (f y ≠ f x) = decide (y ≠ x) := by
      intro y _
      rw [decide_eq_decide, injective.ne_iff]
    rw [rename, freeNames, freeNames, ih, List.filter_map]
    exact congrArg (List.map f) (List.filter_congr kept)
  | app left right ihLeft ihRight =>
    rw [rename, freeNames, freeNames, ihLeft, ihRight, List.map_append]

theorem isFree_rename (injective : Function.Injective f) (x : String) (t : Term) :
    isFree (f x) (t.rename f) = isFree x t := by
  rw [Bool.eq_iff_iff, isFree_eq_true, isFree_eq_true, freeNames_rename injective,
    List.mem_map_of_injective injective]

theorem subst_rename (injective : Function.Injective f) (t replacement : Term) (x : String) :
    (t.rename f).subst (f x) (replacement.rename f) = (t.subst x replacement).rename f := by
  induction t with
  | var y =>
    by_cases same : y = x
    · rw [rename, subst, subst, if_pos same, if_pos (congrArg f same)]
    · rw [rename, subst, subst, if_neg same, if_neg (injective.ne same), rename]
  | abs y body ih =>
    by_cases same : y = x
    · rw [rename, subst, subst, if_pos same, if_pos (congrArg f same), rename]
    · -- Whether the binder would capture is the same question about the renamed replacement.
      rw [rename, subst, subst, if_neg same, if_neg (injective.ne same),
        isFree_rename injective]
      split
      · rw [rename]
      · rw [rename, ih]
  | app left right ihLeft ihRight =>
    rw [rename, subst, subst, rename, ihLeft, ihRight]

theorem contract_rename (injective : Function.Injective f) (left right : Term) :
    contract (left.rename f) (right.rename f) = renameOutcome f (contract left right) := by
  cases left with
  | var x => rfl
  | app function argument => rfl
  | abs x body => exact congrArg Except.ok (subst_rename injective body right x)

theorem callByName_rename (injective : Function.Injective f) (t : Term) :
    (t.rename f).callByName = renameOutcome f t.callByName := by
  cases t with
  | var x => rfl
  | abs x body => rfl
  | app left right => exact contract_rename injective left right

theorem normalOrder_rename (injective : Function.Injective f) (t : Term) :
    (t.rename f).normalOrder = renameOutcome f t.normalOrder := by
  induction t with
  | var x => rfl
  | abs x body ih =>
    rw [rename, normalOrder, normalOrder, ih]
    cases body.normalOrder with
    | ok r => rfl
    | error stuck => rfl
  | app left right _ _ => exact contract_rename injective left right

theorem canonical_rename (injective : Function.Injective f) (t : Term) :
    (t.rename f).canonical = t.canonical := by
  have alike : SameNaming t (t.rename f) := sameNaming_rename injective.injOn
  exact alike.canonical_eq.symm

/-- All operations commute with a renaming that tells names apart.  Free names and the results of
substitution are renamed.  A step succeeds with the renamed result, or is stuck at the renamed
application, exactly if the step before the renaming was.  The canonical form is the same, so a
term and the renamed term have one. -/
theorem operations_commute_with_rename (injective : Function.Injective f) :
    (∀ t : Term, (t.rename f).freeNames = t.freeNames.map f) ∧
    (∀ (t s : Term) (x : String),
      (t.rename f).subst (f x) (s.rename f) = (t.subst x s).rename f) ∧
    (∀ t : Term, (t.rename f).callByName = renameOutcome f t.callByName ∧
      (t.rename f).normalOrder = renameOutcome f t.normalOrder) ∧
    ∀ t : Term, (t.rename f).canonical = t.canonical ∧ sameCanonical t (t.rename f) = true := by
  refine ⟨freeNames_rename injective, subst_rename injective, ?_, ?_⟩
  · intro t
    exact ⟨callByName_rename injective t, normalOrder_rename injective t⟩
  · intro t
    have same := canonical_rename injective t
    refine ⟨same, ?_⟩
    rw [sameCanonical, decide_eq_true_iff]
    exact same.symm

end Injective

/-- Appending `_` to every name of `λ_.((λx.λy.(x _)) y)`: the step below the leading binder
declines to go below `λy`, and does so in the renamed term.  The empty name becomes `_`, which
canonical forms use themselves. -/
theorem operations_commute_with_appending :
    Function.Injective (fun x : String => x ++ "_") ∧
    normalOrder (abs "__" (app (abs "x_" (abs "y_" (app (var "x_") (var "__")))) (var "y_"))) =
      renameOutcome (· ++ "_")
        (normalOrder (abs "_" (app (abs "x" (abs "y" (app (var "x") (var "_")))) (var "y")))) ∧
    normalOrder (abs "_" (app (abs "x" (abs "y" (app (var "x") (var "_")))) (var "y"))) =
      .ok (abs "_" (abs "y" (app (var "x") (var "_")))) ∧
    sameCanonical (abs "" (var "_")) (abs "_" (var "__")) = true := by
  have injective : Function.Injective (fun x : String => x ++ "_") := by
    intro x y same
    exact (String.append_left_inj "_").1 same
  obtain ⟨-, -, steps, canonicals⟩ := operations_commute_with_rename injective
  refine ⟨injective, ?_, rfl, ?_⟩
  · exact (steps (abs "_" (app (abs "x" (abs "y" (app (var "x") (var "_")))) (var "y")))).2
  · exact (canonicals (abs "" (var "_"))).2

end Term

end Stepwise
