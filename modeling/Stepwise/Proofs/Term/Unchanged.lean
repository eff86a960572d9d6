import Stepwise.Proofs.Term.LeadingBinders

/-!
# Steps that change nothing

A step at the root leaves variables and abstractions as they are.  That a contraction gives back the
redex it was made on is an equation between trees: the substitution of `a` for `x` in `b` has to
give `(λx.b) a`.  On the left side of the result `λx.b` cannot be an abstraction that was in `b`
before, since no term is a part of itself.  So `x` stood there, `a` is the abstraction `λx.b`, and
`x` stood on the right side too (`Term.subst_eq_redex_iff`).  The only such redex is
`(λx.(x x)) λx.(x x)`.

What a step at the root leaves unchanged is therefore a variable, an abstraction or this term.  A
step of normal order leaves unchanged what has a variable or this term below all its leading binders
(`Term.step_changes_nothing_iff`).
-/

namespace Stepwise

namespace Term

/-- The term `(λx.(x x)) λx.(x x)`, which contracts to itself. -/
def bigOmega (x : String) : Term :=
  app (abs x (app (var x) (var x))) (abs x (app (var x) (var x)))

variable {t u v a b c : Term} {x : String} {zs : List String}

/-! ## A contraction that gives back its redex -/

/-- Substitution for `x` gives an abstraction over `x` only by putting it for the whole term, or by
leaving it as it was. -/
theorem eq_of_subst_eq_abs (result : t.subst x a = abs x c) :
    (t = var x ∧ a = abs x c) ∨ t = abs x c := by
  cases t with
  | var y =>
    by_cases same : y = x
    · subst same
      rw [subst_var_self] at result
      exact .inl ⟨rfl, result⟩
    · rw [subst_var_of_ne same] at result
      cases result
  | abs y body =>
    by_cases blocked : y = x ∨ y ∈ a.freeNames
    · rw [subst_abs_of_blocked blocked] at result
      exact .inr result
    · rw [subst_abs_of_not_blocked blocked] at result
      exact (blocked (.inl (abs.inj result).1)).elim
  | app left right => cases result

/-- A contraction gives back its redex exactly if function and argument both are `λx.(x x)`. -/
theorem subst_eq_redex_iff :
    b.subst x a = app (abs x b) a ↔ b = app (var x) (var x) ∧ a = abs x b := by
  constructor
  · intro result
    cases b with
    | var y =>
      by_cases same : y = x
      · subst same
        rw [subst_var_self] at result
        -- The argument would be a part of itself.
        cases result
      · rw [subst_var_of_ne same] at result
        cases result
    | abs y body =>
      by_cases blocked : y = x ∨ y ∈ a.freeNames
      · rw [subst_abs_of_blocked blocked] at result
        cases result
      · rw [subst_abs_of_not_blocked blocked] at result
        cases result
    | app left right =>
      obtain ⟨leftResult, rightResult⟩ := app.inj result
      rcases eq_of_subst_eq_abs leftResult with ⟨rfl, rfl⟩ | within
      · rcases eq_of_subst_eq_abs rightResult with ⟨rfl, -⟩ | within
        · exact ⟨rfl, rfl⟩
        · cases within
      · cases within
  · intro shape
    obtain ⟨rfl, rfl⟩ := shape
    rw [subst, subst_var_self]

theorem callByName_eq_self_iff :
    t.callByName = .ok t ↔
      (∃ x, t = var x) ∨ (∃ x body, t = abs x body) ∨ ∃ x, t = bigOmega x := by
  constructor
  · intro unchanged
    cases t with
    | var x => exact .inl ⟨x, rfl⟩
    | abs x body => exact .inr (.inl ⟨x, body, rfl⟩)
    | app left right =>
      cases left with
      | var x => cases unchanged
      | app function argument => cases unchanged
      | abs x body =>
        have result : body.subst x right = app (abs x body) right := Except.ok.inj unchanged
        obtain ⟨rfl, rfl⟩ := subst_eq_redex_iff.1 result
        exact .inr (.inr ⟨x, rfl⟩)
  · intro shape
    rcases shape with ⟨x, rfl⟩ | ⟨x, body, rfl⟩ | ⟨x, rfl⟩
    · rfl
    · rfl
    · exact congrArg Except.ok (subst_eq_redex_iff.2 ⟨rfl, rfl⟩)

/-! ## Below the leading binders -/

theorem foldr_abs_injective (same : zs.foldr abs u = zs.foldr abs v) : u = v := by
  induction zs with
  | nil => exact same
  | cons z zs ih => exact ih (abs.inj same).2

theorem normalOrder_foldr_abs_eq_self_iff (plain : ¬ u.IsAbs) :
    (zs.foldr abs u).normalOrder = .ok (zs.foldr abs u) ↔ u.callByName = .ok u := by
  rw [normalOrder_foldr_abs_eq_ok_iff plain]
  constructor
  · intro unchanged
    obtain ⟨v, stepped, same⟩ := unchanged
    rw [foldr_abs_injective same] at stepped
    exact stepped
  · intro unchanged
    exact ⟨u, unchanged, rfl⟩

/-- A step that changes nothing was made on a value or on `(λx.(x x)) λx.(x x)`.  A step at the root
succeeds with the same term exactly on variables, abstractions and the terms of this form; a step
of normal order exactly if a variable or such a term stands below all the leading binders. -/
theorem step_changes_nothing_iff (t : Term) :
    (t.callByName = .ok t ↔
      (∃ x, t = var x) ∨ (∃ x body, t = abs x body) ∨ ∃ x, t = bigOmega x) ∧
    (t.normalOrder = .ok t ↔
      ∃ (zs : List String) (u : Term), t = zs.foldr abs u ∧
        ((∃ x, u = var x) ∨ ∃ x, u = bigOmega x)) := by
  refine ⟨callByName_eq_self_iff, ?_⟩
  constructor
  · intro unchanged
    obtain ⟨zs, u, rfl, plain⟩ := exists_eq_foldr_abs t
    rw [normalOrder_foldr_abs_eq_self_iff plain, callByName_eq_self_iff] at unchanged
    rcases unchanged with single | ⟨x, body, rfl⟩ | loops
    · exact ⟨zs, u, rfl, .inl single⟩
    · exact (plain trivial).elim
    · exact ⟨zs, u, rfl, .inr loops⟩
  · intro shape
    obtain ⟨zs, u, rfl, ⟨x, rfl⟩ | ⟨x, rfl⟩⟩ := shape
    · rw [normalOrder_foldr_abs_eq_self_iff id, callByName_eq_self_iff]
      exact .inl ⟨x, rfl⟩
    · rw [normalOrder_foldr_abs_eq_self_iff id, callByName_eq_self_iff]
      exact .inr (.inr ⟨x, rfl⟩)

end Term

end Stepwise
