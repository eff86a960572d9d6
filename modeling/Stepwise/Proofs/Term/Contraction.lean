import Stepwise.Proofs.Term.Nameless
import Stepwise.Term.Step

/-!
# Contraction against nameless contraction

A step contracts `(λx.b) a` by a substitution that renames no binder and declines to go below one
that would capture.  In nameless form the contraction never captures and never declines, so it says
what the contraction should be.  The two agree exactly if nothing was declined
(`Strategy.step_eq_contractum_iff`): an occurrence that was left alone stands for another variable
than what should have replaced it, whatever the replacement is.
-/

namespace Stepwise

namespace Term

/-! ## Substitution -/

/-- A term that is left as it is has the nameless form of a substitution exactly if there was
nothing to substitute, unless a variable is replaced by itself. -/
theorem nameless_eq_subst_iff {t : Term} {name : String} {inner outer : List String}
    {replacement : Nameless} (fresh : name ∉ inner)
    (changes : replacement ≠ .ofName (inner ++ outer) name) :
    t.nameless (inner ++ outer) =
        (t.nameless (inner ++ name :: outer)).subst inner.length replacement ↔
      name ∉ t.freeNames := by
  constructor
  · intro same free
    induction t generalizing inner replacement with
    | var x =>
      rw [freeNames, List.mem_singleton] at free
      subst free
      rw [nameless, nameless, Nameless.ofName_append_self fresh, Nameless.subst,
        if_neg (Nat.lt_irrefl _), if_pos rfl] at same
      exact changes same.symm
    | abs x body ih =>
      obtain ⟨inBody, other⟩ : name ∈ body.freeNames ∧ name ≠ x := by
        simpa [freeNames] using free
      have changesInside : replacement.lift 0 ≠ .ofName (x :: inner ++ outer) name := by
        intro lifted
        rw [List.cons_append, Nameless.ofName_cons_of_ne (Ne.symm other)] at lifted
        exact changes (Nameless.lift_injective lifted)
      have freshInside : name ∉ x :: inner := by simp [other, fresh]
      exact ih freshInside changesInside (Nameless.abs.inj same) inBody
    | app left right ihLeft ihRight =>
      obtain ⟨sameLeft, sameRight⟩ := Nameless.app.inj same
      rcases List.mem_append.1 free with inLeft | inRight
      · exact ihLeft fresh changes sameLeft inLeft
      · exact ihRight fresh changes sameRight inRight
  · intro absent
    exact (subst_nameless_of_unused (.inr absent) outer replacement).symm

/-- Substitution agrees with nameless substitution exactly if it declines nothing.  The binders
`inner` are those that it has already gone below: none is the variable's, and none captures. -/
theorem nameless_subst_iff {t argument : Term} {name : String} {inner outer : List String}
    (fresh : name ∉ inner) (harmless : ∀ y ∈ inner, y ∉ argument.freeNames) :
    (t.subst name argument).nameless (inner ++ outer) =
        (t.nameless (inner ++ name :: outer)).subst inner.length
          (argument.nameless (inner ++ outer)) ↔
      ¬ t.Declines name argument := by
  induction t generalizing inner with
  | var x =>
    refine iff_of_true ?_ (not_declines_var x name argument)
    by_cases same : x = name
    · subst same
      rw [subst, if_pos rfl, nameless, Nameless.ofName_append_self fresh, Nameless.subst,
        if_neg (Nat.lt_irrefl _), if_pos rfl]
    · have absent : name ∉ (var x).freeNames := by
        rw [freeNames, List.mem_singleton]
        exact Ne.symm same
      rw [subst, if_neg same]
      exact (subst_nameless_of_unused (.inr absent) outer _).symm
  | abs x body ih =>
    by_cases same : x = name
    · subst same
      refine iff_of_true ?_ (not_declines_abs_self x body argument)
      have absent : x ∉ (abs x body).freeNames := by simp [freeNames]
      rw [subst, if_pos rfl]
      exact (subst_nameless_of_unused (.inr absent) outer _).symm
    · have freshInside : name ∉ x :: inner := by simp [Ne.symm same, fresh]
      by_cases captures : x ∈ argument.freeNames
      · -- The abstraction is left as it is: nothing is lost exactly if its body lacks the name.
        have changes : (argument.nameless (inner ++ outer)).lift 0 ≠
            .ofName (x :: inner ++ outer) name := by
          intro lifted
          rw [List.cons_append, Nameless.ofName_cons_of_ne same] at lifted
          rw [eq_var_of_nameless_eq_ofName (Nameless.lift_injective lifted), freeNames,
            List.mem_singleton] at captures
          exact same captures
        rw [subst, if_neg same, if_pos (isFree_eq_true.2 captures),
          declines_abs_of_isFree same captures, ← nameless_eq_subst_iff freshInside changes]
        exact ⟨Nameless.abs.inj, congrArg Nameless.abs⟩
      · have harmlessInside : ∀ y ∈ x :: inner, y ∉ argument.freeNames := by
          intro y member
          rcases List.mem_cons.1 member with rfl | later
          · exact captures
          · exact harmless y later
        have lifted : argument.nameless (x :: inner ++ outer) =
            (argument.nameless (inner ++ outer)).lift 0 :=
          @nameless_insert argument x [] (.inr captures) (inner ++ outer)
        rw [subst, if_neg same, if_neg (by simpa using captures),
          declines_abs_of_not_isFree same captures, ← ih freshInside harmlessInside, lifted]
        exact ⟨Nameless.abs.inj, congrArg Nameless.abs⟩
  | app left right ihLeft ihRight =>
    rw [declines_app, not_or, ← ihLeft fresh harmless, ← ihRight fresh harmless]
    exact ⟨Nameless.app.inj, fun same => congr (congrArg Nameless.app same.1) same.2⟩

end Term

/-! ## One contraction -/

/-- A step of the strategy on `t` contracts the redex `(λx.b) a`, which lies below the leading
binders `zs` of `t`. -/
inductive Strategy.Contracts (strategy : Strategy) :
    (t : Term) → (zs : List String) → (x : String) → (b a : Term) → Prop
  | root {x : String} {b a : Term} : Contracts strategy (.app (.abs x b) a) [] x b a
  | under {t : Term} {zs : List String} {z x : String} {b a : Term} :
    strategy = .normalOrder → Contracts strategy t zs x b a →
    Contracts strategy (.abs z t) (z :: zs) x b a

/-- The nameless form with the redex below its leading binders contracted. -/
def Nameless.contractum : Nameless → Option Nameless
  | abs body => body.contractum.map abs
  | app (abs body) argument => some (body.subst 0 argument)
  | _ => none

namespace Strategy.Contracts

variable {strategy : Strategy} {t b a : Term} {zs : List String} {x : String}

/-- A contraction replaces the redex and keeps the leading binders. -/
theorem step_eq (contracts : strategy.Contracts t zs x b a) :
    strategy.step t = .ok (zs.foldr .abs (b.subst x a)) := by
  induction contracts with
  | root => cases strategy <;> rfl
  | @under t zs z x b a normal contracts ih =>
    subst normal
    change (Term.normalOrder t).map (Term.abs z) = _
    rw [show Term.normalOrder t = _ from ih]
    rfl

/-- Below any binders, a contraction agrees with nameless contraction exactly if it declines
nothing. -/
theorem contractum_eq_iff (contracts : strategy.Contracts t zs x b a) (scope : List String) :
    (t.nameless scope).contractum = some ((zs.foldr .abs (b.subst x a)).nameless scope) ↔
      ¬ b.Declines x a := by
  induction contracts generalizing scope with
  | @root x b a =>
    have agree : (b.subst x a).nameless scope =
        (b.nameless (x :: scope)).subst 0 (a.nameless scope) ↔ ¬ b.Declines x a :=
      @Term.nameless_subst_iff b a x [] scope nofun nofun
    rw [← agree]
    exact ⟨fun same => (Option.some.inj same).symm, fun same => congrArg some same.symm⟩
  | @under t zs z x b a normal contracts ih =>
    rw [← ih (z :: scope)]
    change (t.nameless (z :: scope)).contractum.map Nameless.abs = some (.abs _) ↔ _
    rw [Option.map_eq_some_iff]
    constructor
    · intro mapped
      obtain ⟨d, found, same⟩ := mapped
      rw [found, Nameless.abs.inj same]
    · intro found
      exact ⟨_, found, rfl⟩

end Strategy.Contracts

/-- `Contracts` misses no contraction: a step that contracts nothing leaves the term as it is. -/
theorem Strategy.contracts_or_eq_of_step {strategy : Strategy} {t r : Term}
    (stepped : strategy.step t = .ok r) :
    (∃ zs x b a, strategy.Contracts t zs x b a) ∨ r = t := by
  induction t generalizing r with
  | var x => cases strategy <;> exact .inr (Except.ok.inj stepped).symm
  | app left right =>
    cases left with
    | abs x body => exact .inl ⟨[], x, body, right, .root⟩
    | var x => cases strategy <;> cases stepped
    | app function argument => cases strategy <;> cases stepped
  | abs z body ih =>
    cases strategy with
    | callByName => exact .inr (Except.ok.inj stepped).symm
    | normalOrder =>
      change (Term.normalOrder body).map (Term.abs z) = .ok r at stepped
      cases inner : Term.normalOrder body with
      | error stuck =>
        rw [inner] at stepped
        cases stepped
      | ok s =>
        rw [inner] at stepped
        cases stepped
        rcases ih inner with ⟨zs, x, b, a, contracts⟩ | rfl
        · exact .inl ⟨z :: zs, x, b, a, .under rfl contracts⟩
        · exact .inr rfl

/-- A step agrees with textbook contraction exactly if its substitution declines nothing.  Where a
step contracts the redex `(λx.b) a` below the leading binders of `t`, the nameless form of its
result is the nameless form of `t` with that redex contracted if and only if no free occurrence of
`x` in `b` lies under a binder of `b` whose name is free in `a`. -/
theorem Strategy.step_eq_contractum_iff {strategy : Strategy} {t b a : Term} {zs : List String}
    {x : String} (contracts : strategy.Contracts t zs x b a) :
    ∃ r, strategy.step t = .ok r ∧
      ((t.nameless []).contractum = some (r.nameless []) ↔
        ¬ ∃ o ∈ b.occurrences, o.name = x ∧ o.IsFree ∧
          ∃ z ∈ o.binders, Term.isFree z a = true) :=
  ⟨_, contracts.step_eq, contracts.contractum_eq_iff []⟩

/-- In `λy.((λx.λy.(x y)) y)` the leading binder has the name of the inner one: the step declines,
and its result is not the contractum. -/
theorem Strategy.step_ne_contractum_of_capture :
    Strategy.normalOrder.Contracts
        (.abs "y" (.app (.abs "x" (.abs "y" (.app (.var "x") (.var "y")))) (.var "y")))
        ["y"] "x" (.abs "y" (.app (.var "x") (.var "y"))) (.var "y") ∧
      ∃ r, Strategy.normalOrder.step
          (.abs "y" (.app (.abs "x" (.abs "y" (.app (.var "x") (.var "y")))) (.var "y"))) = .ok r ∧
        (Term.nameless [] (.abs "y" (.app (.abs "x" (.abs "y" (.app (.var "x") (.var "y"))))
          (.var "y")))).contractum ≠ some (r.nameless []) := by
  have contracts : Strategy.normalOrder.Contracts
      (.abs "y" (.app (.abs "x" (.abs "y" (.app (.var "x") (.var "y")))) (.var "y")))
      ["y"] "x" (.abs "y" (.app (.var "x") (.var "y"))) (.var "y") := .under rfl .root
  obtain ⟨r, stepped, agree⟩ := Strategy.step_eq_contractum_iff contracts
  exact ⟨contracts, r, stepped, fun same => agree.1 same (by decide)⟩

end Stepwise
