import Stepwise.CommandLine.Task
import Stepwise.Proofs.Term.FreeNames

/-!
# Sizes

A substitution changes the size of a term by a fixed amount for each occurrence that it replaces:
one node goes, and the nodes of the replacement come (`Term.size_subst`).  What counts is
`Term.replacedCount`, the number of free occurrences of the variable that lie below no binder whose
name is free in the replacement.  It follows substitution binder by binder: a binder that binds the
variable or captures hides all the occurrences below it, and any other hides none.

A step that contracts `(λx.b) a` also takes away the application, the binder and the argument, and
the leading binders above the redex stay.  The two sizes that are reported for the step therefore
differ by a number that depends on `a` and on what is replaced in `b` only
(`Term.reported_sizes_differ_exactly`), and a step that does not copy its argument makes the term
smaller.
-/

namespace Stepwise

namespace Term

/-- The number of occurrences that substitution for `x` replaces: the free occurrences of `x` below
no binder whose name is free in `replacement`. -/
def replacedCount (t : Term) (x : String) (replacement : Term) : Nat :=
  t.occurrences.countP (·.Replaceable x replacement)

variable {t body left right replacement : Term} {x y : String}

/-! ## How many occurrences are replaced -/

theorem replacedCount_var_self (x : String) (replacement : Term) :
    (var x).replacedCount x replacement = 1 := by
  have replaceable : decide (Occurrence.Replaceable x replacement ⟨x, []⟩) = true :=
    decide_eq_true (Occurrence.replaceable_root x replacement)
  rw [replacedCount, occurrences, List.countP_singleton, if_pos replaceable]

theorem replacedCount_var_of_ne (other : y ≠ x) (replacement : Term) :
    (var y).replacedCount x replacement = 0 := by
  rw [replacedCount, List.countP_eq_zero]
  intro o member replaceable
  rw [occurrences, List.mem_singleton] at member
  subst member
  exact other (of_decide_eq_true replaceable).1

/-- Below a binder that blocks the substitution nothing is replaced. -/
theorem replacedCount_abs_of_blocked (blocked : y = x ∨ y ∈ replacement.freeNames) :
    (abs y body).replacedCount x replacement = 0 := by
  rw [replacedCount, List.countP_eq_zero]
  intro o member replaceable
  obtain ⟨inner, -, rfl⟩ := List.mem_map.1 member
  obtain ⟨other, harmless, -⟩ := Occurrence.replaceable_under.1 (of_decide_eq_true replaceable)
  rcases blocked with same | captures
  · exact other same
  · rw [isFree_eq_true.2 captures] at harmless
    cases harmless

/-- Any other binder makes no difference to the number. -/
theorem replacedCount_abs_of_not_blocked (passes : ¬ (y = x ∨ y ∈ replacement.freeNames)) :
    (abs y body).replacedCount x replacement = body.replacedCount x replacement := by
  obtain ⟨other, harmless⟩ := not_or.1 passes
  have bound : isFree y replacement = false :=
    eq_false_of_ne_true (mt isFree_eq_true.1 harmless)
  rw [replacedCount, replacedCount, occurrences, List.countP_map]
  apply List.countP_congr
  intro o _
  simp only [Function.comp_apply, decide_eq_true_eq, Occurrence.replaceable_under]
  exact ⟨fun replaceable => replaceable.2.2, fun replaceable => ⟨other, bound, replaceable⟩⟩

theorem replacedCount_app (left right replacement : Term) (x : String) :
    (app left right).replacedCount x replacement =
      left.replacedCount x replacement + right.replacedCount x replacement :=
  List.countP_append

/-! ## Size of a substitution and of a step -/

/-- Every occurrence that is replaced is one node less, and as many more as the replacement has. -/
theorem size_subst (t replacement : Term) (x : String) :
    (t.subst x replacement).size + t.replacedCount x replacement =
      t.size + t.replacedCount x replacement * replacement.size := by
  induction t with
  | var y =>
    by_cases same : y = x
    · subst same
      rw [subst_var_self, replacedCount_var_self, size]
      omega
    · rw [subst_var_of_ne same, replacedCount_var_of_ne same]
      omega
  | abs y body ih =>
    by_cases blocked : y = x ∨ y ∈ replacement.freeNames
    · rw [subst_abs_of_blocked blocked, replacedCount_abs_of_blocked blocked]
      omega
    · rw [subst_abs_of_not_blocked blocked, replacedCount_abs_of_not_blocked blocked, size, size]
      omega
  | app left right ihLeft ihRight =>
    rw [subst, size, size, replacedCount_app, Nat.add_mul]
    omega

theorem size_foldr_abs (zs : List String) (u : Term) :
    (zs.foldr abs u).size = zs.length + u.size := by
  induction zs with
  | nil => rw [List.foldr_nil, List.length_nil, Nat.zero_add]
  | cons z zs ih =>
    rw [List.foldr_cons, size, ih, List.length_cons]
    omega

/-- What a contraction takes away and what it brings: the application, the binder and the argument
go, together with each occurrence that is replaced, and for each of these comes the argument. -/
theorem size_of_contracts {strategy : Strategy} {t b a : Term} {zs : List String} {x : String}
    (contracts : strategy.Contracts t zs x b a) :
    (zs.foldr abs (b.subst x a)).size + (a.size + 2 + b.replacedCount x a) =
      t.size + b.replacedCount x a * a.size := by
  have replaced := size_subst b a x
  rw [contracts.eq_foldr, size_foldr_abs, size_foldr_abs, size, size]
  omega

open CommandLine

/-- A step that succeeds is reported with the sizes of the term before and after it. -/
theorem exists_note_of_step {named : NamedStrategy} {t r : Term}
    (stepped : named.strategy.step t = .ok r) :
    ∃ (result : Result) (note : Note), (Task.step named t).perform = .ok result ∧
      note ∈ result.notes ∧ ("size_in", toString t.size) ∈ note.fields ∧
      ("size_out", toString r.size) ∈ note.fields := by
  rw [Task.perform, stepped]
  refine ⟨_, _, rfl, List.mem_singleton_self _, ?_, ?_⟩
  · exact List.mem_cons_self
  · exact List.mem_cons_of_mem _ List.mem_cons_self

/-- The sizes before and after a step obey an exact law.  Let `k` be the number of free occurrences
of `x` in `t` that lie below no binder whose name is free in `s`.  The substitution of `s` for `x`
changes the size of `t` by `k * (s.size - 1)`.  So where a step contracts `(λx.b) a` below the
leading binders of `t`, the two sizes that it reports differ by `k * (a.size - 1) - a.size - 2`,
with `k` counted in `b`, and the term gets smaller if `k` is at most one. -/
theorem reported_sizes_differ_exactly :
    (∀ (t s : Term) (x : String),
      ((t.subst x s).size : Int) = t.size + t.replacedCount x s * ((s.size : Int) - 1)) ∧
    ∀ (named : NamedStrategy) (t b a : Term) (zs : List String) (x : String),
      named.strategy.Contracts t zs x b a →
      ∃ (r : Term) (result : Result) (note : Note), named.strategy.step t = .ok r ∧
        (Task.step named t).perform = .ok result ∧ note ∈ result.notes ∧
        ("size_in", toString t.size) ∈ note.fields ∧
        ("size_out", toString r.size) ∈ note.fields ∧
        (r.size : Int) - t.size = b.replacedCount x a * ((a.size : Int) - 1) - a.size - 2 ∧
        (b.replacedCount x a ≤ 1 → r.size < t.size) := by
  refine ⟨?_, ?_⟩
  · intro t s x
    have law := size_subst t s x
    rw [Int.mul_sub, Int.mul_one]
    omega
  · intro named t b a zs x contracts
    have law := size_of_contracts contracts
    obtain ⟨result, note, performed, noted, before, after⟩ :=
      exists_note_of_step contracts.step_eq
    refine ⟨_, result, note, contracts.step_eq, performed, noted, before, after, ?_, ?_⟩
    · rw [Int.mul_sub, Int.mul_one]
      omega
    · intro few
      have copied : b.replacedCount x a * a.size ≤ 1 * a.size := Nat.mul_le_mul_right _ few
      omega

/-- In `λz.((λx.((x λy.x) λx.x)) (y y))` one of the three `x` is replaced, since `λy` captures and
`λx` binds.  The step takes away three nodes of the thirteen.  In `(λx.((x x) x)) (y y)` all three
are, and the step adds a node. -/
theorem reported_sizes_differ_exactly_shrinking_and_growing :
    (∃ r, normalOrder (abs "z" (app (abs "x" (app (app (var "x") (abs "y" (var "x")))
        (abs "x" (var "x")))) (app (var "y") (var "y")))) = .ok r ∧
      (r.size : Int) - 13 = 1 * (3 - 1) - 3 - 2 ∧ r.size < 13) ∧
    ∃ r, callByName (app (abs "x" (app (app (var "x") (var "x")) (var "x")))
        (app (var "y") (var "y"))) = .ok r ∧
      (r.size : Int) - 10 = 3 * (3 - 1) - 3 - 2 := by
  have below : Strategy.normalOrder.Contracts
      (abs "z" (app (abs "x" (app (app (var "x") (abs "y" (var "x"))) (abs "x" (var "x"))))
        (app (var "y") (var "y")))) ["z"] "x"
      (app (app (var "x") (abs "y" (var "x"))) (abs "x" (var "x"))) (app (var "y") (var "y")) :=
    .under rfl .root
  have one : (app (app (var "x") (abs "y" (var "x"))) (abs "x" (var "x"))).replacedCount "x"
      (app (var "y") (var "y")) = 1 := by decide
  have three : (app (app (var "x") (var "x")) (var "x")).replacedCount "x"
      (app (var "y") (var "y")) = 3 := by decide
  refine ⟨?_, ?_⟩
  · obtain ⟨r, -, -, stepped, -, -, -, -, change, shrinks⟩ :=
      reported_sizes_differ_exactly.2 ⟨.normalOrder, "no"⟩ _ _ _ _ _ below
    rw [one] at change shrinks
    exact ⟨r, stepped, change, shrinks (Nat.le_refl 1)⟩
  · obtain ⟨r, -, -, stepped, -, -, -, -, change, -⟩ :=
      reported_sizes_differ_exactly.2 ⟨.callByName, "cbn"⟩ _ _ _ _ _ .root
    rw [three] at change
    exact ⟨r, stepped, change⟩

end Term

end Stepwise
