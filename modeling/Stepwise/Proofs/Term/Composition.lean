import Stepwise.Proofs.Term.FreeNames
import Stepwise.Proofs.Term.Position

/-!
# Substitutions one after the other

Whether a binder lets a substitution through depends on the name of the binder and not on its body.
A substitution that was made before therefore does not change where the next one declines, unless
it changes what the next one brings: after `s` is put for `x`, the variable `y` is replaced in the
copies of `s` too.

`Term.subst_subst` exchanges two substitutions in this sense.  If `y` does not occur in `s` there
is nothing to replace in the copies, and no binder can interfere
(`Term.independent_substs_commute`).  If it does, the binders of the term have to keep clear of what
is substituted (`Term.substs_compose_of_fresh_binders`); those of the replacements need not.
-/

namespace Stepwise

namespace Term

variable {t s r : Term} {x y z : String}

/-! ## One substitution -/

/-- There is nothing to replace where the variable is not free. -/
theorem subst_of_not_mem_freeNames (absent : x ∉ t.freeNames) : t.subst x s = t := by
  induction t with
  | var y =>
    have other : y ≠ x := by simpa [freeNames, eq_comm] using absent
    exact subst_var_of_ne other s
  | abs y body ih =>
    by_cases blocked : y = x ∨ y ∈ s.freeNames
    · exact subst_abs_of_blocked blocked
    · have absentInside : x ∉ body.freeNames := by
        intro free
        have bound : x = y := by simpa [freeNames, free] using absent
        exact blocked (.inl bound.symm)
      rw [subst_abs_of_not_blocked blocked, ih absentInside]
  | app left right ihLeft ihRight =>
    obtain ⟨absentLeft, absentRight⟩ : x ∉ left.freeNames ∧ x ∉ right.freeNames := by
      simpa [freeNames] using absent
    rw [subst, ihLeft absentLeft, ihRight absentRight]

/-- Every free name of a substitution was free in the term or came with the replacement, also where
the substitution declines. -/
theorem mem_freeNames_of_mem_subst (free : z ∈ (s.subst y r).freeNames) :
    z ∈ s.freeNames ∨ z ∈ r.freeNames := by
  rcases mem_freeNames_subst.1 free with ⟨known, -⟩ | ⟨rfl, o, inside, named, unbound, -⟩ |
    ⟨brought, -⟩
  · exact .inl known
  · exact .inl (mem_freeNames_iff.2 ⟨o, inside, named, unbound⟩)
  · exact .inr brought

/-- Unless the variable is free in `s`, and `z` in `s` or in `r`, a substitution makes no difference
to whether `z` is free. -/
theorem mem_freeNames_subst_of_clear
    (clear : y ∈ s.freeNames → z ∉ s.freeNames ∧ z ∉ r.freeNames) :
    z ∈ (s.subst y r).freeNames ↔ z ∈ s.freeNames := by
  by_cases known : y ∈ s.freeNames
  · obtain ⟨notInS, notInR⟩ := clear known
    refine iff_of_false ?_ notInS
    intro free
    exact (mem_freeNames_of_mem_subst free).elim notInS notInR
  · rw [subst_of_not_mem_freeNames known]

/-! ## Two substitutions -/

/-- Two substitutions may be exchanged if the second is also made in what the first one brings.
Only where it replaces something there do the binders of the term matter. -/
theorem subst_subst (distinct : x ≠ y) (fresh : x ∉ r.freeNames)
    (clear : y ∈ s.freeNames → ∀ z ∈ t.binderNames, z ∉ s.freeNames ∧ z ∉ r.freeNames) :
    (t.subst x s).subst y r = (t.subst y r).subst x (s.subst y r) := by
  induction t with
  | var z =>
    by_cases isX : z = x
    · subst isX
      rw [subst_var_self, subst_var_of_ne distinct, subst_var_self]
    · by_cases isY : z = y
      · subst isY
        rw [subst_var_of_ne isX, subst_var_self, subst_of_not_mem_freeNames fresh]
      · rw [subst_var_of_ne isX, subst_var_of_ne isY, subst_var_of_ne isX]
  | abs z body ih =>
    have clearHere : y ∈ s.freeNames → z ∉ s.freeNames ∧ z ∉ r.freeNames :=
      fun known => clear known z List.mem_cons_self
    have clearInside : y ∈ s.freeNames →
        ∀ w ∈ body.binderNames, w ∉ s.freeNames ∧ w ∉ r.freeNames :=
      fun known w member => clear known w (List.mem_cons_of_mem z member)
    -- The binder does not see whether `y` has been replaced in `s`.
    have sameBlocked : (z = x ∨ z ∈ (s.subst y r).freeNames) ↔ (z = x ∨ z ∈ s.freeNames) :=
      or_congr_right (mem_freeNames_subst_of_clear clearHere)
    by_cases blockedX : z = x ∨ z ∈ s.freeNames
    · by_cases blockedY : z = y ∨ z ∈ r.freeNames
      · rw [subst_abs_of_blocked blockedX, subst_abs_of_blocked blockedY,
          subst_abs_of_blocked (sameBlocked.2 blockedX)]
      · rw [subst_abs_of_blocked blockedX, subst_abs_of_not_blocked blockedY,
          subst_abs_of_blocked (sameBlocked.2 blockedX)]
    · by_cases blockedY : z = y ∨ z ∈ r.freeNames
      · -- Below this binder `y` stays as it is, and so it has to in the copies of `s`.
        have absent : y ∉ s.freeNames := by
          intro known
          obtain ⟨notInS, notInR⟩ := clearHere known
          rcases blockedY with rfl | captures
          · exact notInS known
          · exact notInR captures
        rw [subst_abs_of_not_blocked blockedX, subst_abs_of_blocked blockedY,
          subst_abs_of_blocked blockedY, subst_of_not_mem_freeNames absent,
          subst_abs_of_not_blocked blockedX]
      · rw [subst_abs_of_not_blocked blockedX, subst_abs_of_not_blocked blockedY,
          subst_abs_of_not_blocked blockedY, subst_abs_of_not_blocked (mt sameBlocked.1 blockedX),
          ih clearInside]
  | app left right ihLeft ihRight =>
    have clearLeft : y ∈ s.freeNames →
        ∀ w ∈ left.binderNames, w ∉ s.freeNames ∧ w ∉ r.freeNames :=
      fun known w member => clear known w (List.mem_append_left _ member)
    have clearRight : y ∈ s.freeNames →
        ∀ w ∈ right.binderNames, w ∉ s.freeNames ∧ w ∉ r.freeNames :=
      fun known w member => clear known w (List.mem_append_right _ member)
    rw [subst, subst, subst, subst, ihLeft clearLeft, ihRight clearRight]

/-- Independent substitutions commute, whatever binders the term has.  Each of them declines where
it would have declined without the other, and leaves the copies that the other one brings alone. -/
theorem independent_substs_commute (t : Term) (distinct : x ≠ y) (freshX : x ∉ r.freeNames)
    (freshY : y ∉ s.freeNames) : (t.subst x s).subst y r = (t.subst y r).subst x s := by
  have exchanged : (t.subst x s).subst y r = (t.subst y r).subst x (s.subst y r) :=
    subst_subst distinct freshX fun known => (freshY known).elim
  rw [exchanged, subst_of_not_mem_freeNames freshY]

/-- In `λq.(x λp.(x y))` both substitutions decline at `λp`, and that of `p q` for `y` at `λq`. -/
theorem independent_substs_commute_declining :
    ((abs "q" (app (var "x") (abs "p" (app (var "x") (var "y"))))).subst "x" (var "p")).subst "y"
        (app (var "p") (var "q")) =
      ((abs "q" (app (var "x") (abs "p" (app (var "x") (var "y"))))).subst "y"
        (app (var "p") (var "q"))).subst "x" (var "p") ∧
    ((abs "q" (app (var "x") (abs "p" (app (var "x") (var "y"))))).subst "y"
        (app (var "p") (var "q"))).subst "x" (var "p") =
      abs "q" (app (var "p") (abs "p" (app (var "x") (var "y")))) :=
  ⟨independent_substs_commute _ (by decide) (by decide) (by decide), by decide⟩

/-- The substitution lemma.  If no binder of the term has a name that is free in either replacement,
`s` for `x` and then `r` for `y` is `r` for `y` and then, for `x`, what `s` becomes when `r` is put
for `y` in it.  The binders of `s` and `r` are arbitrary, so that the substitution in `s` may
decline. -/
theorem substs_compose_of_fresh_binders (t : Term) (distinct : x ≠ y) (fresh : x ∉ r.freeNames)
    (clear : ∀ z ∈ t.binderNames, z ∉ s.freeNames ∧ z ∉ r.freeNames) :
    (t.subst x s).subst y r = (t.subst y r).subst x (s.subst y r) :=
  subst_subst distinct fresh fun _ => clear

/-- In `λz.(x λx.(x y))` the inner binder binds `x`.  The replacement `y λw.y` has a binder of its
own, at which the substitution of `w` for `y` declines. -/
theorem substs_compose_of_fresh_binders_declining :
    ((abs "z" (app (var "x") (abs "x" (app (var "x") (var "y"))))).subst "x"
        (app (var "y") (abs "w" (var "y")))).subst "y" (var "w") =
      ((abs "z" (app (var "x") (abs "x" (app (var "x") (var "y"))))).subst "y" (var "w")).subst "x"
        ((app (var "y") (abs "w" (var "y"))).subst "y" (var "w")) ∧
    (app (var "y") (abs "w" (var "y"))).subst "y" (var "w") = app (var "w") (abs "w" (var "y")) :=
  ⟨substs_compose_of_fresh_binders _ (by decide) (by decide) (by decide), by decide⟩

end Term

end Stepwise
