import Stepwise.Proofs.Term.Numbering

/-!
# What canonical forms tell apart

Two terms have one canonical form exactly if they use their names alike (`Term.SameNaming`): they
have the same tree, they repeat the names of variables at the same positions, and a binder has the
name of a variable in its body or to its left in both or in none
(`Term.sameCanonical_iff_sameNaming`).  Other variables make no difference to a binder.

A term uses its names like its own canonical form, so a canonical form is its own.  Those terms can
be told by looking at them (`Term.IsNumbered`), and the canonical form is a projection onto them
(`Term.canonical_projects_onto_isNumbered`).
-/

namespace Stepwise

namespace Term

/-- Two terms use their names alike. -/
structure SameNaming (a b : Term) : Prop where
  /-- They have the same tree. -/
  shape : a.shape = b.shape
  /-- Two variables have one name in both terms or in none. -/
  vars : ∀ p q, (a.varAt? p).isSome → (a.varAt? q).isSome →
    (a.varAt? p = a.varAt? q ↔ b.varAt? p = b.varAt? q)
  /-- A binder and a variable in its body or to its left have one name in both terms or in none. -/
  binders : ∀ p q, (a.binderAt? p).isSome → (a.varAt? q).isSome → q.InBodyOf p ∨ q.LeftOf p →
    (a.binderAt? p = a.varAt? q ↔ b.binderAt? p = b.varAt? q)

/-- The variables are named `0`, `1`, … in order of first occurrence.  A binder is named like a
variable in its body or to its left, or `_`. -/
structure IsNumbered (u : Term) : Prop where
  vars : ∃ n, u.varNames.eraseDups = (List.range n).map toString
  binders : ∀ p x, u.binderAt? p = some x →
    x = "_" ∨ ∃ q, u.varAt? q = some x ∧ (q.InBodyOf p ∨ q.LeftOf p)

variable {a b c : Term}

/-! ## Terms of one shape -/

/-- Two terms have the same tree exactly if they have variables and binders at the same
positions. -/
theorem shape_eq_iff : a.shape = b.shape ↔ ∀ p,
    (a.varAt? p).isSome = (b.varAt? p).isSome ∧
      (a.binderAt? p).isSome = (b.binderAt? p).isSome := by
  constructor
  · intro same p
    have vars := congrArg (fun t => (t.varAt? p).isSome) same
    have binders := congrArg (fun t => (t.binderAt? p).isSome) same
    simp only [shape, varAt?_rename, binderAt?_rename, Option.isSome_map] at vars binders
    exact ⟨vars, binders⟩
  · intro same
    have forget (x : Option String) :
        (x.map fun _ => "") = if x.isSome then some "" else none := by
      cases x <;> rfl
    refine eq_of_names_eq ?_ ?_
    · intro p
      rw [shape, shape, varAt?_rename, varAt?_rename, forget, forget, (same p).1]
    · intro p
      rw [shape, shape, binderAt?_rename, binderAt?_rename, forget, forget, (same p).2]

/-- Variables that are renamed one by one are renamed from left to right. -/
theorem varNames_eq_map {f : String → String} (same : a.shape = b.shape)
    (renamed : ∀ p, b.varAt? p = (a.varAt? p).map f) : b.varNames = a.varNames.map f := by
  induction a generalizing b with
  | var x =>
    cases b with
    | var y => exact congrArg (fun z => [z]) (Option.some.inj (renamed []))
    | abs y body => cases same
    | app left right => cases same
  | abs x body ih =>
    cases b with
    | var y => cases same
    | abs y other => exact @ih other (abs.inj same).2 fun p => renamed (.body :: p)
    | app left right => cases same
  | app left right ihLeft ihRight =>
    cases b with
    | var y => cases same
    | abs y body => cases same
    | app left' right' =>
      obtain ⟨sameLeft, sameRight⟩ := app.inj same
      rw [varNames, varNames, List.map_append, ihLeft sameLeft fun p => renamed (.left :: p),
        ihRight sameRight fun p => renamed (.right :: p)]

/-! ## The same use of names -/

namespace SameNaming

theorem isSome_varAt? (same : SameNaming a b) (p : Position) :
    (a.varAt? p).isSome = (b.varAt? p).isSome := (shape_eq_iff.1 same.shape p).1

theorem isSome_binderAt? (same : SameNaming a b) (p : Position) :
    (a.binderAt? p).isSome = (b.binderAt? p).isSome := (shape_eq_iff.1 same.shape p).2

theorem symm (same : SameNaming a b) : SameNaming b a where
  shape := same.shape.symm
  vars p q varP varQ := by
    rw [← same.isSome_varAt?] at varP varQ
    exact (same.vars p q varP varQ).symm
  binders p q binderP varQ place := by
    rw [← same.isSome_binderAt?] at binderP
    rw [← same.isSome_varAt?] at varQ
    exact (same.binders p q binderP varQ place).symm

theorem trans (left : SameNaming a b) (right : SameNaming b c) : SameNaming a c where
  shape := left.shape.trans right.shape
  vars p q varP varQ := by
    refine (left.vars p q varP varQ).trans ?_
    rw [left.isSome_varAt?] at varP varQ
    exact right.vars p q varP varQ
  binders p q binderP varQ place := by
    refine (left.binders p q binderP varQ place).trans ?_
    rw [left.isSome_binderAt?] at binderP
    rw [left.isSome_varAt?] at varQ
    exact right.binders p q binderP varQ place

/-- Variables renamed without clashes, and binders so that they agree with the same variables in
their bodies and to their left. -/
theorem of_renaming {f : String → String} {g : Position → String → String}
    (injective : Set.InjOn f {x | x ∈ a.varNames})
    (vars : ∀ p, b.varAt? p = (a.varAt? p).map f)
    (binders : ∀ p, b.binderAt? p = (a.binderAt? p).map (g p))
    (agree : ∀ p x, a.binderAt? p = some x → ∀ y ∈ a.namesBefore p, (x = y ↔ g p x = f y)) :
    SameNaming a b where
  shape := by
    rw [shape_eq_iff]
    intro p
    rw [vars, binders, Option.isSome_map, Option.isSome_map]
    exact ⟨rfl, rfl⟩
  vars p q varP varQ := by
    obtain ⟨x, varP⟩ := Option.isSome_iff_exists.1 varP
    obtain ⟨y, varQ⟩ := Option.isSome_iff_exists.1 varQ
    have known : x ∈ a.varNames := mem_varNames_iff.2 ⟨p, varP⟩
    have knownToo : y ∈ a.varNames := mem_varNames_iff.2 ⟨q, varQ⟩
    rw [vars, vars, varP, varQ, Option.map_some, Option.map_some, Option.some_inj, Option.some_inj]
    exact (injective.eq_iff known knownToo).symm
  binders p q binderP varQ place := by
    obtain ⟨x, binderP⟩ := Option.isSome_iff_exists.1 binderP
    obtain ⟨y, varQ⟩ := Option.isSome_iff_exists.1 varQ
    rw [binders, vars, binderP, varQ, Option.map_some, Option.map_some, Option.some_inj,
      Option.some_inj]
    exact agree p x binderP y (mem_namesBefore_iff.2 ⟨q, varQ, place⟩)

/-- The names of the variables of one term are those of the other, renamed without clashes. -/
theorem exists_renaming (same : SameNaming a b) :
    ∃ f : String → String, Set.InjOn f {x | x ∈ a.varNames} ∧
      ∀ p, b.varAt? p = (a.varAt? p).map f := by
  -- All variables of one name of `a` have one name in `b`.
  have image : ∀ x, ∃ y, ∀ p, a.varAt? p = some x → b.varAt? p = some y := by
    intro x
    by_cases occurs : ∃ p, a.varAt? p = some x
    · obtain ⟨p, here⟩ := occurs
      have varP : (a.varAt? p).isSome := by rw [here]; rfl
      obtain ⟨y, there⟩ := Option.isSome_iff_exists.1 (same.isSome_varAt? p ▸ varP)
      refine ⟨y, ?_⟩
      intro q hereToo
      have varQ : (a.varAt? q).isSome := by rw [hereToo]; rfl
      rw [← there]
      exact (same.vars q p varQ varP).1 (hereToo.trans here.symm)
    · refine ⟨x, ?_⟩
      intro p here
      exact (occurs ⟨p, here⟩).elim
  choose f image using image
  refine ⟨f, ?_, ?_⟩
  · intro x occursX y occursY clash
    obtain ⟨p, hereX⟩ := mem_varNames_iff.1 occursX
    obtain ⟨q, hereY⟩ := mem_varNames_iff.1 occursY
    have there : b.varAt? p = b.varAt? q := by rw [image x p hereX, image y q hereY, clash]
    have here := (same.vars p q (by rw [hereX]; rfl) (by rw [hereY]; rfl)).2 there
    rw [hereX, hereY] at here
    exact Option.some.inj here
  · intro p
    cases here : a.varAt? p with
    | none =>
      have absent := same.isSome_varAt? p
      rw [here, Option.isSome_none, eq_comm, Option.isSome_eq_false_iff,
        Option.isNone_iff_eq_none] at absent
      exact absent
    | some x => exact image x p here

/-- A renaming of the variables takes along each binder that has met its name. -/
theorem binder_renamed (same : SameNaming a b) {f : String → String}
    (renamed : ∀ p, b.varAt? p = (a.varAt? p).map f) {p : Position} {x y : String}
    (hereA : a.binderAt? p = some x) (hereB : b.binderAt? p = some y) :
    (x ∈ a.namesBefore p → y = f x) ∧ (x ∈ a.namesBefore p ↔ y ∈ b.namesBefore p) := by
  have agree : ∀ q z, a.varAt? q = some z → q.InBodyOf p ∨ q.LeftOf p → (x = z ↔ y = f z) := by
    intro q z varQ place
    have agree := same.binders p q (by rw [hereA]; rfl) (by rw [varQ]; rfl) place
    rwa [hereA, hereB, renamed, varQ, Option.map_some, Option.some_inj, Option.some_inj] at agree
  have image : x ∈ a.namesBefore p → y = f x := by
    intro before
    obtain ⟨q, varQ, place⟩ := mem_namesBefore_iff.1 before
    exact (agree q x varQ place).1 rfl
  refine ⟨image, ?_⟩
  constructor
  · intro before
    obtain ⟨q, varQ, place⟩ := mem_namesBefore_iff.1 before
    rw [image before, mem_namesBefore_iff]
    exact ⟨q, by rw [renamed, varQ, Option.map_some], place⟩
  · intro before
    obtain ⟨q, varQ, place⟩ := mem_namesBefore_iff.1 before
    rw [renamed] at varQ
    obtain ⟨z, varQ, named⟩ := Option.map_eq_some_iff.1 varQ
    rw [(agree q z varQ place).2 named.symm, mem_namesBefore_iff]
    exact ⟨q, varQ, place⟩

/-- Terms that use their names alike get the same numbers. -/
theorem canonical_eq (same : SameNaming a b) : a.canonical = b.canonical := by
  obtain ⟨f, injective, renamed⟩ := same.exists_renaming
  have number : ∀ x ∈ a.varNames, numberName b.varNames (f x) = numberName a.varNames x := by
    intro x known
    rw [varNames_eq_map same.shape renamed]
    exact numberName_map injective known
  refine eq_of_names_eq ?_ ?_
  · intro p
    rw [varAt?_canonical, varAt?_canonical, renamed]
    cases here : a.varAt? p with
    | none => rfl
    | some x => exact congrArg some (number x (mem_varNames_iff.2 ⟨p, here⟩)).symm
  · intro p
    have both := same.isSome_binderAt? p
    rw [binderAt?_canonical, binderAt?_canonical]
    cases hereA : a.binderAt? p with
    | none =>
      rw [hereA, Option.isSome_none, eq_comm, Option.isSome_eq_false_iff,
        Option.isNone_iff_eq_none] at both
      rw [both]
      rfl
    | some x =>
      rw [hereA, Option.isSome_some, eq_comm, Option.isSome_iff_exists] at both
      obtain ⟨y, hereB⟩ := both
      obtain ⟨image, alike⟩ := same.binder_renamed renamed hereA hereB
      rw [hereB, Option.map_some, Option.map_some, Option.some_inj]
      -- A binder that has met no variable of its name is outside the renaming, but it is `_`.
      by_cases before : x ∈ a.namesBefore p
      · rw [if_pos before, if_pos (alike.1 before), image before,
          number x (mem_varNames_of_mem_namesBefore before)]
      · rw [if_neg before, if_neg (mt alike.2 before)]

end SameNaming

/-- A term uses its names like its canonical form. -/
theorem sameNaming_canonical (t : Term) : SameNaming t t.canonical := by
  refine .of_renaming (numberName_injOn t.varNames) (varAt?_canonical t) (binderAt?_canonical t) ?_
  intro p x _ y before
  have known : y ∈ t.varNames := mem_varNames_of_mem_namesBefore before
  split
  · next beforeX =>
    have knownX : x ∈ t.varNames := mem_varNames_of_mem_namesBefore beforeX
    exact ((numberName_injOn t.varNames).eq_iff knownX known).symm
  · next notBefore =>
    refine iff_of_false ?_ (indexName_ne_unusedName _).symm
    intro same
    exact notBefore (same ▸ before)

/-- Renaming variables and binders alike, without clashes, makes no difference to their use. -/
theorem sameNaming_rename {t : Term} {f : String → String}
    (injective : Set.InjOn f {x | x ∈ t.varNames ∨ x ∈ t.binderNames}) :
    SameNaming t (t.rename f) := by
  refine .of_renaming (injective.mono ?_) (varAt?_rename f t) (binderAt?_rename f t) ?_
  · intro x known
    exact .inl known
  · intro p x here y before
    exact (injective.eq_iff (.inr (mem_binderNames_of_binderAt? here))
      (.inl (mem_varNames_of_mem_namesBefore before))).symm

/-- Two terms have one canonical form exactly if they use their names alike: they have the same
tree, any two variables have one name in both or in none, and so have a binder and a variable in
its body or to its left. -/
theorem sameCanonical_iff_sameNaming (a b : Term) : sameCanonical a b = true ↔ SameNaming a b := by
  rw [sameCanonical, decide_eq_true_iff]
  constructor
  · intro same
    have left := sameNaming_canonical a
    rw [same] at left
    exact left.trans (sameNaming_canonical b).symm
  · intro same
    exact same.canonical_eq

/-! ## Canonical forms of canonical forms -/

theorem canonical_canonical (t : Term) : t.canonical.canonical = t.canonical :=
  (sameNaming_canonical t).canonical_eq.symm

theorem canonical_eq_self_iff {u : Term} : u.canonical = u ↔ IsNumbered u := by
  have counted : (∃ n, u.varNames.eraseDups = (List.range n).map toString) ↔
      ∀ x ∈ u.varNames, numberName u.varNames x = x := by
    rw [numberName_eq_self_iff, funext indexName_eq_toString]
  constructor
  · intro fixed
    refine ⟨counted.2 ?_, ?_⟩
    · intro x known
      obtain ⟨p, here⟩ := mem_varNames_iff.1 known
      have number := varAt?_canonical u p
      rw [fixed, here] at number
      exact (Option.some.inj number).symm
    · intro p x here
      have number := binderAt?_canonical u p
      rw [fixed, here, Option.map_some, Option.some_inj] at number
      split at number
      · next before => exact .inr (mem_namesBefore_iff.1 before)
      · exact .inl number
  · intro numbered
    have own := counted.1 numbered.vars
    refine eq_of_names_eq ?_ ?_
    · intro p
      rw [varAt?_canonical]
      cases here : u.varAt? p with
      | none => rfl
      | some x => exact congrArg some (own x (mem_varNames_iff.2 ⟨p, here⟩))
    · intro p
      rw [binderAt?_canonical]
      cases here : u.binderAt? p with
      | none => rfl
      | some x =>
        rw [Option.map_some, Option.some_inj]
        split
        · next before => exact own x (mem_varNames_of_mem_namesBefore before)
        · next notBefore =>
          have unused := (numbered.binders p x here).resolve_right
            (mt mem_namesBefore_iff.2 notBefore)
          exact unused.symm

/-- The canonical form is a projection: it is its own canonical form, and the terms that are, which
are the canonical forms of some term, are those that `IsNumbered` describes. -/
theorem canonical_projects_onto_isNumbered :
    (∀ t : Term, t.canonical.canonical = t.canonical) ∧
      ∀ u : Term, (u.canonical = u ↔ IsNumbered u) ∧ ((∃ t, canonical t = u) ↔ IsNumbered u) := by
  refine ⟨canonical_canonical, ?_⟩
  intro u
  refine ⟨canonical_eq_self_iff, ?_⟩
  rw [← canonical_eq_self_iff]
  constructor
  · intro image
    obtain ⟨t, rfl⟩ := image
    exact canonical_canonical t
  · intro fixed
    exact ⟨u, fixed⟩

end Term

end Stepwise
