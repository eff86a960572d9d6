import Stepwise.Term.Free

/-!
# Substitution that declines to capture

`Term.subst` never renames a binder.  Where a binder would capture a free name of the replacement
it leaves the whole abstraction as it is, so some free occurrences of the variable may survive.
-/

namespace Stepwise

/-- `t` with `replacement` in the place of the free occurrences of `name` that lie under no binder
whose name is free in `replacement`. -/
def Term.subst (t : Term) (name : String) (replacement : Term) : Term :=
  match t with
  | .var x => if x = name then replacement else .var x
  | .abs x body =>
    if x = name then .abs x body
    else if isFree x replacement then .abs x body
    else .abs x (body.subst name replacement)
  | .app left right => .app (left.subst name replacement) (right.subst name replacement)

namespace Term

variable {body : Term} {x name : String}

theorem subst_var_self (name : String) (replacement : Term) :
    (var name).subst name replacement = replacement := if_pos rfl

theorem subst_var_of_ne (other : x ≠ name) (replacement : Term) :
    (var x).subst name replacement = var x := if_neg other

/-- A binder that binds the variable or would capture blocks the substitution. -/
theorem subst_abs_of_blocked {replacement : Term} (blocked : x = name ∨ x ∈ replacement.freeNames) :
    (abs x body).subst name replacement = abs x body := by
  rcases blocked with same | captures
  · rw [subst, if_pos same]
  · have free : isFree x replacement = true := List.contains_iff_mem.2 captures
    rw [subst, if_pos free, ite_self]

/-- Any other binder lets it through. -/
theorem subst_abs_of_not_blocked {replacement : Term}
    (passes : ¬ (x = name ∨ x ∈ replacement.freeNames)) :
    (abs x body).subst name replacement = abs x (body.subst name replacement) := by
  obtain ⟨other, harmless⟩ := not_or.1 passes
  have bound : ¬ isFree x replacement = true := mt List.contains_iff_mem.1 harmless
  rw [subst, if_neg other, if_neg bound]

end Term

end Stepwise
