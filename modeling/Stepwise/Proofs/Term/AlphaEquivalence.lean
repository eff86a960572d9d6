import Mathlib.Data.List.GetD
import Mathlib.Data.List.Nodup
import Stepwise.Proofs.Term.Naming
import Stepwise.Proofs.Term.Renaming

/-!
# Canonical forms and alpha-equivalence

Terms are alpha-equivalent up to their free names if a bijective renaming of free names makes their
nameless forms equal.  Terms of one canonical form are (`Term.nameless_canonical`): a binder that
becomes a number catches what it caught before, and one that becomes `_` had nothing to catch.

The converse fails in general, because one numbering serves the whole term and a binder may have
the name of an occurrence that it does not bind.  It holds for terms whose binders have distinct
names, none of them free: such terms differ by a renaming of all names without clashes
(`Term.sameCanonical_of_nameless_eq`).
-/

namespace Stepwise

namespace Term

/-! ## Canonical forms keep what binders catch -/

theorem renames_numbered {t : Term} {f : String → String} {before : List String}
    (injective : Set.InjOn f {x | x ∈ before ++ t.varNames})
    (number : ∀ x, f x ≠ unusedName) : Renames f t (t.numbered f before) := by
  induction t generalizing before with
  | var x => exact .var x
  | abs x body ih =>
    refine .abs ?_ (ih injective)
    intro y inBody
    split
    · next known =>
      exact (injective.eq_iff known (List.mem_append_right _ inBody)).symm
    · next unknown =>
      refine iff_of_false ?_ (number y).symm
      intro same
      exact unknown (List.mem_append_right _ (same ▸ inBody))
  | app left right ihLeft ihRight =>
    rw [varNames, ← List.append_assoc] at injective
    refine .app (ihLeft (injective.mono ?_)) (ihRight injective)
    intro x known
    exact List.mem_append_left _ known

theorem exists_nameless_canonical_eq (t : Term) :
    ∃ f : String → String, Set.InjOn f {x | x ∈ t.freeNames} ∧
      t.canonical.nameless [] = (t.nameless []).mapFree f := by
  have injective := numberName_injOn t.varNames
  refine ⟨numberName t.varNames, injective.mono ?_, ?_⟩
  · intro x free
    exact mem_varNames_of_mem_freeNames free
  · have renames : Renames (numberName t.varNames) t (t.numbered (numberName t.varNames) []) :=
      renames_numbered injective fun x => indexName_ne_unusedName _
    rw [canonical_eq_numbered]
    exact renames.nameless_eq .nil

/-- If two terms have one nameless form after their free names were renamed without clashes, then
one renaming leads from the free names of the first to those of the second. -/
theorem exists_bijOn_of_mapFree_eq {a b : Term} {f g : String → String}
    (injectiveF : Set.InjOn f {x | x ∈ a.freeNames})
    (injectiveG : Set.InjOn g {x | x ∈ b.freeNames})
    (same : (a.nameless []).mapFree f = (b.nameless []).mapFree g) :
    ∃ h : String → String, Set.BijOn h {x | x ∈ a.freeNames} {x | x ∈ b.freeNames} ∧
      (a.nameless []).mapFree h = b.nameless [] := by
  -- What `g` did to the free names of `b` is undone after `f` was applied to those of `a`.
  let back : String → String := Function.invFunOn g {x | x ∈ b.freeNames}
  have undo : (a.nameless []).mapFree (back ∘ f) = b.nameless [] := by
    have undoes : ∀ x ∈ (b.nameless []).freeNames, (back ∘ g) x = id x := by
      intro x free
      rw [freeNames_nameless_nil] at free
      exact injectiveG.leftInvOn_invFunOn free
    calc (a.nameless []).mapFree (back ∘ f)
        = ((b.nameless []).mapFree g).mapFree back := by rw [← Nameless.mapFree_mapFree, same]
      _ = (b.nameless []).mapFree id := by
          rw [Nameless.mapFree_mapFree, Nameless.mapFree_congr undoes]
      _ = b.nameless [] := Nameless.mapFree_id _
  have names : a.freeNames.map f = b.freeNames.map g := by
    have names := congrArg Nameless.freeNames same
    rwa [freeNames_mapFree_nameless, freeNames_mapFree_nameless] at names
  have injective : Set.InjOn (back ∘ f) {x | x ∈ a.freeNames} := by
    refine (Function.invFunOn_injOn_image g {x | x ∈ b.freeNames}).comp injectiveF ?_
    intro x free
    have image : f x ∈ b.freeNames.map g := names ▸ List.mem_map_of_mem free
    exact List.mem_map.1 image
  have image : (back ∘ f) '' {x | x ∈ a.freeNames} = {x | x ∈ b.freeNames} := by
    have names := congrArg Nameless.freeNames undo
    rw [freeNames_mapFree_nameless, freeNames_nameless_nil] at names
    rw [← names]
    exact Set.ext fun x => List.mem_map.symm
  exact ⟨back ∘ f, image ▸ injective.bijOn_image, undo⟩

/-- The canonical form of a term has the nameless form of the term, with its free names renamed
without clashes.  Terms with one canonical form therefore have the same nameless form, up to a
bijection between their free names. -/
theorem nameless_canonical :
    (∀ t : Term, ∃ f : String → String, Set.InjOn f {x | x ∈ t.freeNames} ∧
      t.canonical.nameless [] = (t.nameless []).mapFree f) ∧
    ∀ a b : Term, sameCanonical a b = true →
      ∃ h : String → String, Set.BijOn h {x | x ∈ a.freeNames} {x | x ∈ b.freeNames} ∧
        (a.nameless []).mapFree h = b.nameless [] := by
  refine ⟨exists_nameless_canonical_eq, ?_⟩
  intro a b same
  obtain ⟨f, injectiveF, formA⟩ := exists_nameless_canonical_eq a
  obtain ⟨g, injectiveG, formB⟩ := exists_nameless_canonical_eq b
  rw [sameCanonical, decide_eq_true_iff] at same
  exact exists_bijOn_of_mapFree_eq injectiveF injectiveG (by rw [← formA, same, formB])

/-- In `((λx.(x y)) (λy.x))` the name of the second binder, which binds nothing, is free elsewhere,
and a free name is also bound.  Its use of names is that of `((λz.(z _)) (λ_.z))`. -/
theorem nameless_canonical_reused_names :
    sameCanonical
        (app (abs "x" (app (var "x") (var "y"))) (abs "y" (var "x")))
        (app (abs "z" (app (var "z") (var "_"))) (abs "_" (var "z"))) = true ∧
      ∃ h : String → String, Set.BijOn h {x | x ∈ ["y", "x"]} {x | x ∈ ["_", "z"]} ∧
        (Nameless.app (.abs (.app (.bound 0) (.free "y"))) (.abs (.free "x"))).mapFree h =
          .app (.abs (.app (.bound 0) (.free "_"))) (.abs (.free "z")) := by
  have same : sameCanonical
      (app (abs "x" (app (var "x") (var "y"))) (abs "y" (var "x")))
      (app (abs "z" (app (var "z") (var "_"))) (abs "_" (var "z"))) = true := by decide
  exact ⟨same, nameless_canonical.2 _ _ same⟩

/-! ## The variable convention -/

/-- The binders have distinct names, and none of these is free. -/
structure VariableConvention (t : Term) : Prop where
  distinct : t.binderNames.Nodup
  apart : ∀ x ∈ t.binderNames, x ∉ t.freeNames

/-- Sends each of `names` to the one at its place among `others`, and any other name as `f` does. -/
def matchNames (names others : List String) (f : String → String) (x : String) : String :=
  others.getD (names.idxOf x) (f x)

theorem map_matchNames {names others : List String} (distinct : names.Nodup)
    (length : names.length = others.length) (f : String → String) :
    names.map (matchNames names others f) = others := by
  refine List.ext_getElem (by simpa using length) ?_
  intro i within within'
  rw [List.getElem_map, matchNames, distinct.idxOf_getElem, List.getD_eq_getElem _ _ within']

theorem matchNames_of_not_mem {names others : List String} (length : names.length = others.length)
    {x : String} (absent : x ∉ names) (f : String → String) :
    matchNames names others f x = f x := by
  rw [matchNames, List.idxOf_of_notMem absent, length]
  exact List.getD_eq_default _ _ le_rfl

section Convention

variable {a b : Term} {g : String → String}

/-- Under the convention, matching the binders of two terms tells all names of the first apart. -/
theorem matchNames_injOn (conventionA : a.VariableConvention) (conventionB : b.VariableConvention)
    (bijective : Set.BijOn g {x | x ∈ a.freeNames} {x | x ∈ b.freeNames})
    (length : a.binderNames.length = b.binderNames.length) :
    Set.InjOn (matchNames a.binderNames b.binderNames g)
      {x | x ∈ a.varNames ∨ x ∈ a.binderNames} := by
  have matched := map_matchNames conventionA.distinct length g
  have binder : ∀ x ∈ a.binderNames,
      matchNames a.binderNames b.binderNames g x ∈ b.binderNames := by
    intro x bound
    have image := List.mem_map_of_mem (f := matchNames a.binderNames b.binderNames g) bound
    rwa [matched] at image
  have other : ∀ x, x ∈ a.varNames ∨ x ∈ a.binderNames → x ∉ a.binderNames →
      x ∈ a.freeNames ∧ matchNames a.binderNames b.binderNames g x = g x := by
    intro x known unbound
    have free := (mem_freeNames_or_mem_binderNames (known.resolve_right unbound)).resolve_right
      unbound
    exact ⟨free, matchNames_of_not_mem length unbound g⟩
  have distinct : (a.binderNames.map (matchNames a.binderNames b.binderNames g)).Nodup := by
    rw [matched]
    exact conventionB.distinct
  intro x knownX y knownY same
  by_cases boundX : x ∈ a.binderNames
  · by_cases boundY : y ∈ a.binderNames
    · exact List.inj_on_of_nodup_map distinct boundX boundY same
    · obtain ⟨free, image⟩ := other y knownY boundY
      rw [image] at same
      exact (conventionB.apart _ (binder x boundX) (same ▸ bijective.mapsTo free)).elim
  · obtain ⟨freeX, imageX⟩ := other x knownX boundX
    by_cases boundY : y ∈ a.binderNames
    · rw [imageX] at same
      exact (conventionB.apart _ (binder y boundY) (same ▸ bijective.mapsTo freeX)).elim
    · obtain ⟨freeY, imageY⟩ := other y knownY boundY
      rw [imageX, imageY] at same
      exact bijective.injOn freeX freeY same

/-- Terms whose binders have distinct names, none of them free, have one canonical form if their
nameless forms are equal up to a bijection between their free names. -/
theorem sameCanonical_of_nameless_eq (conventionA : a.VariableConvention)
    (conventionB : b.VariableConvention)
    (bijective : Set.BijOn g {x | x ∈ a.freeNames} {x | x ∈ b.freeNames})
    (same : (a.nameless []).mapFree g = b.nameless []) : sameCanonical a b = true := by
  have length : a.binderNames.length = b.binderNames.length := by
    rw [← binderCount_nameless a [], ← binderCount_nameless b [], ← same,
      Nameless.binderCount_mapFree]
  let f := matchNames a.binderNames b.binderNames g
  have injective : Set.InjOn f {x | x ∈ a.varNames ∨ x ∈ a.binderNames} :=
    matchNames_injOn conventionA conventionB bijective length
  have agree : ∀ x ∈ (a.nameless []).freeNames, f x = g x := by
    intro x free
    rw [freeNames_nameless_nil] at free
    exact matchNames_of_not_mem length (fun bound => conventionA.apart x bound free) g
  have renamed : a.rename f = b := by
    refine @eq_of_nameless_eq _ _ [] ?_ ?_
    · rw [(renames_rename injective).nameless_eq .nil, Nameless.mapFree_congr agree, same]
    · rw [binderNames_rename, map_matchNames conventionA.distinct length]
  rw [sameCanonical, decide_eq_true_iff, ← renamed]
  exact (sameNaming_rename injective).canonical_eq

end Convention

/-- `((λx.λu.(x y)) z)` and `((λy.λ_.(y x)) 0)` meet the convention, with a binder in each that
binds nothing. -/
theorem sameCanonical_of_nameless_eq_unused_binder :
    VariableConvention (app (abs "x" (abs "u" (app (var "x") (var "y")))) (var "z")) ∧
      VariableConvention (app (abs "y" (abs "_" (app (var "y") (var "x")))) (var "0")) ∧
      sameCanonical (app (abs "x" (abs "u" (app (var "x") (var "y")))) (var "z"))
        (app (abs "y" (abs "_" (app (var "y") (var "x")))) (var "0")) = true := by
  have conventionA :
      VariableConvention (app (abs "x" (abs "u" (app (var "x") (var "y")))) (var "z")) :=
    ⟨by decide, by decide⟩
  have conventionB :
      VariableConvention (app (abs "y" (abs "_" (app (var "y") (var "x")))) (var "0")) :=
    ⟨by decide, by decide⟩
  have bijective : Set.BijOn (fun x => if x = "y" then "x" else "0")
      {x | x ∈ ["y", "z"]} {x | x ∈ ["x", "0"]} := by
    refine ⟨?_, ?_, ?_⟩
    · change ∀ x ∈ ["y", "z"], (if x = "y" then "x" else "0") ∈ ["x", "0"]
      decide
    · change ∀ x ∈ ["y", "z"], ∀ y ∈ ["y", "z"],
        (if x = "y" then "x" else "0") = (if y = "y" then "x" else "0") → x = y
      decide
    · change ∀ y ∈ ["x", "0"], ∃ x ∈ ["y", "z"], (if x = "y" then "x" else "0") = y
      decide
  exact ⟨conventionA, conventionB,
    sameCanonical_of_nameless_eq conventionA conventionB bijective (by decide)⟩

-- Without the convention, a name to the left of a binder is enough to tell the terms apart.
example :
    (app (var "x") (abs "x" (var "y"))).nameless [] =
        (app (var "x") (abs "z" (var "y"))).nameless [] ∧
      sameCanonical (app (var "x") (abs "x" (var "y"))) (app (var "x") (abs "z" (var "y"))) =
        false := by
  decide

end Term

end Stepwise
