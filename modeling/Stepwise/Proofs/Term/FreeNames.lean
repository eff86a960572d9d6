import Stepwise.Proofs.Term.Contraction

/-!
# Free names after a substitution and after a step

The occurrences of a substitution are those of the term, each replaceable one giving way to the
occurrences of the replacement (`Term.occurrences_subst`).  No binder captures anything at such a
place, so the free names change in the same way, entry by entry
(`Term.freeNames_subst_by_occurrence`).

An occurrence that substitution declines to replace keeps the name of the variable.  When the
substitution contracts a redex the binder of that name is gone, and the name comes out free unless
a leading binder catches it.  This is the only way in which a step makes a name free
(`Strategy.step_leaks_iff_declined`).
-/

namespace Stepwise

namespace Term

variable {t replacement : Term} {x y : String}

/-! ## Occurrences of a substitution -/

/-- The occurrences that stand in the place of `o` after a substitution. -/
def occurrencesFor (x : String) (replacement : Term) (o : Occurrence) : List Occurrence :=
  if o.Replaceable x replacement then replacement.occurrences.map (Occurrence.below o.binders)
  else [o]

/-- A binder that neither binds the variable nor captures makes no difference. -/
theorem occurrencesFor_under {binder : String} (other : binder ≠ x)
    (harmless : isFree binder replacement = false) (o : Occurrence) :
    occurrencesFor x replacement (o.under binder) =
      (occurrencesFor x replacement o).map (Occurrence.under binder) := by
  have same : (o.under binder).Replaceable x replacement ↔ o.Replaceable x replacement := by
    rw [Occurrence.replaceable_under]
    exact ⟨fun replaceable => replaceable.2.2, fun replaceable => ⟨other, harmless, replaceable⟩⟩
  by_cases replaceable : o.Replaceable x replacement
  · rw [occurrencesFor, occurrencesFor, if_pos (same.2 replaceable), if_pos replaceable,
      List.map_map]
    rfl
  · rw [occurrencesFor, occurrencesFor, if_neg (mt same.1 replaceable), if_neg replaceable]
    rfl

/-- Below a binder that leaves nothing replaceable every occurrence is kept. -/
theorem flatMap_occurrencesFor_of_kept {binder : String}
    (kept : ∀ o : Occurrence, ¬ (o.under binder).Replaceable x replacement)
    (os : List Occurrence) :
    (os.map (Occurrence.under binder)).flatMap (occurrencesFor x replacement) =
      os.map (Occurrence.under binder) := by
  have single : (fun o : Occurrence => occurrencesFor x replacement (o.under binder)) =
      fun o => [o.under binder] := by
    funext o
    exact if_neg (kept o)
  rw [List.flatMap_map, single, ← List.map_eq_flatMap]

/-- The occurrences of a substitution are those of the term, each replaceable one giving way to the
occurrences of the replacement below the same binders. -/
theorem occurrences_subst (t replacement : Term) (x : String) :
    (t.subst x replacement).occurrences =
      t.occurrences.flatMap (occurrencesFor x replacement) := by
  induction t with
  | var y =>
    rw [occurrences, List.flatMap_singleton]
    by_cases same : y = x
    · subst same
      rw [subst, if_pos rfl, occurrencesFor, if_pos (Occurrence.replaceable_root y replacement)]
      exact (List.map_id _).symm
    · have kept : ¬ Occurrence.Replaceable x replacement ⟨y, []⟩ :=
        fun replaceable => same replaceable.1
      rw [subst, if_neg same, occurrencesFor, if_neg kept, occurrences]
  | abs y body ih =>
    by_cases same : y = x
    · -- Occurrences of the variable in the body are bound here.
      rw [subst, if_pos same, occurrences, flatMap_occurrencesFor_of_kept]
      intro o replaceable
      exact (Occurrence.replaceable_under.1 replaceable).1 same
    · by_cases captures : isFree y replacement = true
      · -- This binder shields all that is below it.
        rw [subst, if_neg same, if_pos captures, occurrences, flatMap_occurrencesFor_of_kept]
        intro o replaceable
        have harmless := (Occurrence.replaceable_under.1 replaceable).2.1
        rw [captures] at harmless
        cases harmless
      · have harmless : isFree y replacement = false := eq_false_of_ne_true captures
        rw [subst, if_neg same, if_neg captures, occurrences, occurrences, ih, List.map_flatMap,
          List.flatMap_map]
        simp only [occurrencesFor_under same harmless]
  | app left right ihLeft ihRight =>
    rw [subst, occurrences, occurrences, ihLeft, ihRight, List.flatMap_append]

/-! ## Free names of a substitution -/

/-- The free names that stand in the place of the free occurrence `o` after a substitution. -/
def namesFor (x : String) (replacement : Term) (o : Occurrence) : List String :=
  if o.Replaceable x replacement then replacement.freeNames else [o.name]

theorem freeNames_occurrencesFor (o : Occurrence) :
    ((occurrencesFor x replacement o).filter (·.IsFree)).map Occurrence.name =
      if o.IsFree then namesFor x replacement o else [] := by
  by_cases replaceable : o.Replaceable x replacement
  · have kept : ∀ inner ∈ replacement.occurrences,
        ((fun o : Occurrence => decide o.IsFree) ∘ Occurrence.below o.binders) inner =
          decide inner.IsFree := by
      intro inner inside
      exact decide_eq_decide.2 (isFree_below_iff replaceable inside)
    rw [occurrencesFor, namesFor, if_pos replaceable, if_pos replaceable, if_pos replaceable.2.1,
      List.filter_map, List.filter_congr kept, List.map_map, freeNames_eq_map_occurrences]
    rfl
  · rw [occurrencesFor, namesFor, if_neg replaceable, if_neg replaceable]
    by_cases free : o.IsFree
    · simp [free]
    · simp [free]

theorem freeNames_subst (t replacement : Term) (x : String) :
    (t.subst x replacement).freeNames =
      (t.occurrences.filter (·.IsFree)).flatMap (namesFor x replacement) := by
  rw [freeNames_eq_map_occurrences, occurrences_subst]
  induction t.occurrences with
  | nil => rfl
  | cons o os ih =>
    rw [List.flatMap_cons, List.filter_append, List.map_append, ih, freeNames_occurrencesFor]
    by_cases free : o.IsFree
    · rw [if_pos free, List.filter_cons_of_pos (by simpa using free), List.flatMap_cons]
    · rw [if_neg free, List.filter_cons_of_neg (by simpa using free), List.nil_append]

/-- The free names of a substitution are the free names of the term, one entry for each free
occurrence, in the same order.  The entry of a free occurrence of `x` under no binder that is free
in the replacement gives way to all the free names of the replacement; every other entry stays,
that of a declined occurrence of `x` too. -/
theorem freeNames_subst_by_occurrence (t replacement : Term) (x : String) :
    t.freeNames = (t.occurrences.filter (·.IsFree)).map Occurrence.name ∧
    (t.subst x replacement).freeNames = (t.occurrences.filter (·.IsFree)).flatMap fun o =>
      if o.Replaceable x replacement then replacement.freeNames else [o.name] :=
  ⟨freeNames_eq_map_occurrences t, freeNames_subst t replacement x⟩

example : ((app (app (var "x") (abs "y" (var "x"))) (var "x")).subst "x"
    (app (var "y") (var "y"))).freeNames = ["y", "y", "x", "y", "y"] := by decide

/-- A name is free after a substitution if it was free before it and is not the variable, if it is
the variable and an occurrence was declined, or if it came with the replacement. -/
theorem mem_freeNames_subst :
    y ∈ (t.subst x replacement).freeNames ↔
      (y ∈ t.freeNames ∧ y ≠ x) ∨ (y = x ∧ t.Declines x replacement) ∨
        (y ∈ replacement.freeNames ∧ ∃ o ∈ t.occurrences, o.Replaceable x replacement) := by
  rw [freeNames_subst, List.mem_flatMap]
  constructor
  · intro found
    obtain ⟨o, member, entry⟩ := found
    obtain ⟨inside, free⟩ : o ∈ t.occurrences ∧ o.IsFree := by simpa using member
    by_cases replaceable : o.Replaceable x replacement
    · rw [namesFor, if_pos replaceable] at entry
      exact .inr (.inr ⟨entry, o, inside, replaceable⟩)
    · rw [namesFor, if_neg replaceable, List.mem_singleton] at entry
      subst entry
      by_cases same : o.name = x
      · -- A free occurrence of the variable is kept only if a binder above it captures.
        have shielded : o.Shielded replacement :=
          Decidable.not_not.1 fun unshielded => replaceable ⟨same, free, unshielded⟩
        exact .inr (.inl ⟨same, o, inside, same, free, shielded⟩)
      · exact .inl ⟨mem_freeNames_iff.2 ⟨o, inside, rfl, free⟩, same⟩
  · intro origin
    rcases origin with ⟨known, other⟩ | ⟨rfl, o, inside, rfl, free, shielded⟩ |
      ⟨brought, o, inside, replaceable⟩
    · obtain ⟨o, inside, rfl, free⟩ := mem_freeNames_iff.1 known
      refine ⟨o, List.mem_filter.2 ⟨inside, decide_eq_true free⟩, ?_⟩
      rw [namesFor, if_neg fun replaceable => other replaceable.1]
      exact List.mem_singleton_self _
    · refine ⟨o, List.mem_filter.2 ⟨inside, decide_eq_true free⟩, ?_⟩
      rw [namesFor, if_neg fun replaceable => replaceable.2.2 shielded]
      exact List.mem_singleton_self _
    · refine ⟨o, List.mem_filter.2 ⟨inside, decide_eq_true replaceable.2.1⟩, ?_⟩
      rw [namesFor, if_pos replaceable]
      exact brought

/-! ## Leading binders and redexes -/

theorem mem_freeNames_foldr_abs {zs : List String} :
    y ∈ (zs.foldr abs t).freeNames ↔ y ∈ t.freeNames ∧ y ∉ zs := by
  induction zs with
  | nil => simp
  | cons z zs ih =>
    rw [List.foldr_cons, freeNames, List.mem_filter, ih, decide_eq_true_eq, List.mem_cons, not_or,
      and_right_comm, and_assoc]

theorem mem_freeNames_redex {body argument : Term} :
    y ∈ (app (abs x body) argument).freeNames ↔
      (y ∈ body.freeNames ∧ y ≠ x) ∨ y ∈ argument.freeNames := by
  rw [freeNames, freeNames, List.mem_append, List.mem_filter, decide_eq_true_eq]

end Term

namespace Strategy

variable {strategy : Strategy} {t b a : Term} {zs : List String} {x y : String}

theorem Contracts.eq_foldr (contracts : strategy.Contracts t zs x b a) :
    t = zs.foldr .abs (.app (.abs x b) a) := by
  induction contracts with
  | root => rfl
  | under _ _ ih => rw [ih, List.foldr_cons]

/-- The only name that a contraction can make free is that of the binder it removes. -/
theorem Contracts.leaks_iff (contracts : strategy.Contracts t zs x b a) :
    y ∈ (zs.foldr .abs (b.subst x a)).freeNames ∧ y ∉ t.freeNames ↔
      y = x ∧ x ∉ zs ∧ x ∉ a.freeNames ∧ b.Declines x a := by
  rw [contracts.eq_foldr, Term.mem_freeNames_foldr_abs, Term.mem_freeNames_foldr_abs,
    Term.mem_freeNames_redex, Term.mem_freeNames_subst]
  constructor
  · intro leaked
    obtain ⟨⟨origin, uncaught⟩, new⟩ := leaked
    have newInside : ¬ ((y ∈ b.freeNames ∧ y ≠ x) ∨ y ∈ a.freeNames) :=
      fun known => new ⟨known, uncaught⟩
    rcases origin with kept | ⟨rfl, declines⟩ | ⟨brought, -⟩
    · exact (newInside (.inl kept)).elim
    · exact ⟨rfl, uncaught, fun known => newInside (.inr known), declines⟩
    · exact (newInside (.inr brought)).elim
  · intro declined
    obtain ⟨rfl, uncaught, absent, declines⟩ := declined
    refine ⟨⟨.inr (.inl ⟨rfl, declines⟩), uncaught⟩, ?_⟩
    intro known
    rcases known.1 with ⟨-, other⟩ | inArgument
    · exact other rfl
    · exact absent inArgument

/-- A step leaks a bound name exactly if its substitution declines.  Where the step contracts the
redex `(λx.b) a` below the leading binders `zs` of `t`, a name is free in the result and not in `t`
if and only if it is `x`, no leading binder and no free name of `a` is called `x`, and a free
occurrence of `x` in `b` lies under a binder of `b` whose name is free in `a`.  In all other cases,
a step that contracts nothing among them, every free name of the result is one of `t`. -/
theorem step_leaks_iff_declined (strategy : Strategy) (t : Term) :
    (∀ zs x b a, strategy.Contracts t zs x b a → ∃ r, strategy.step t = .ok r ∧
      ∀ y, y ∈ r.freeNames ∧ y ∉ t.freeNames ↔
        y = x ∧ x ∉ zs ∧ x ∉ a.freeNames ∧ b.Declines x a) ∧
    ∀ r, strategy.step t = .ok r →
      (¬ ∃ zs x b a, strategy.Contracts t zs x b a ∧
        x ∉ zs ∧ x ∉ a.freeNames ∧ b.Declines x a) →
      ∀ y ∈ r.freeNames, y ∈ t.freeNames := by
  constructor
  · intro zs x b a contracts
    exact ⟨_, contracts.step_eq, fun y => contracts.leaks_iff⟩
  · intro r stepped harmless y free
    rcases contracts_or_eq_of_step stepped with ⟨zs, x, b, a, contracts⟩ | rfl
    · rw [contracts.step_eq] at stepped
      cases stepped
      by_cases known : y ∈ t.freeNames
      · exact known
      · obtain ⟨-, leaks⟩ := contracts.leaks_iff.1 ⟨free, known⟩
        exact (harmless ⟨zs, x, b, a, contracts, leaks⟩).elim
    · exact free

/-- In `λz.((λx.λy.(x z)) y)` the step declines to go below `λy`, and the name `x` comes out free:
the result is `λz.λy.(x z)`.  In `λx.((λx.λy.x) y)` it declines too, but the leading binder catches
the name. -/
theorem step_leaks_unless_caught :
    (∃ r, Strategy.normalOrder.step
        (.abs "z" (.app (.abs "x" (.abs "y" (.app (.var "x") (.var "z")))) (.var "y"))) = .ok r ∧
      "x" ∈ r.freeNames ∧ "x" ∉ Term.freeNames
        (.abs "z" (.app (.abs "x" (.abs "y" (.app (.var "x") (.var "z")))) (.var "y")))) ∧
    ∀ y ∈ Term.freeNames (.abs "x" (.abs "y" (.var "x"))),
      y ∈ Term.freeNames (.abs "x" (.app (.abs "x" (.abs "y" (.var "x"))) (.var "y"))) := by
  constructor
  · have contracts : Strategy.normalOrder.Contracts
        (.abs "z" (.app (.abs "x" (.abs "y" (.app (.var "x") (.var "z")))) (.var "y")))
        ["z"] "x" (.abs "y" (.app (.var "x") (.var "z"))) (.var "y") := .under rfl .root
    obtain ⟨r, stepped, leaks⟩ := (step_leaks_iff_declined _ _).1 _ _ _ _ contracts
    exact ⟨r, stepped, (leaks "x").2 (by decide)⟩
  · have stepped : Strategy.normalOrder.step
        (.abs "x" (.app (.abs "x" (.abs "y" (.var "x"))) (.var "y"))) =
          .ok (.abs "x" (.abs "y" (.var "x"))) := rfl
    refine (step_leaks_iff_declined _ _).2 _ stepped ?_
    intro declined
    obtain ⟨zs, x, b, a, contracts, uncaught, -⟩ := declined
    cases contracts with
    | under _ inner =>
      cases inner
      exact uncaught List.mem_cons_self

end Strategy

end Stepwise
