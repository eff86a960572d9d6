import Stepwise.Term.Substitution

/-!
# Occurrences

The occurrences of variables in a term from left to right, each with the binders above it.  Free
names and the reach of substitution are facts about single occurrences: an occurrence is free if no
binder above it has its name, and substitution leaves a free occurrence of the variable alone if a
binder above it would capture a free name of the replacement.  Where it does replace an occurrence,
no free name of the replacement is captured (`Term.isFree_below_iff`).
-/

namespace Stepwise

/-- An occurrence of a variable: its name, and the names of the binders above it, outermost
first. -/
structure Occurrence where
  name : String
  binders : List String
deriving DecidableEq

namespace Occurrence

/-- The occurrence as seen from above one more binder. -/
def under (binder : String) (o : Occurrence) : Occurrence :=
  { o with binders := binder :: o.binders }

/-- The occurrence as seen from above the binders `outer`. -/
def below (outer : List String) (o : Occurrence) : Occurrence :=
  { o with binders := outer ++ o.binders }

/-- No binder above the occurrence has its name. -/
def IsFree (o : Occurrence) : Prop := o.name ∉ o.binders

/-- A binder above the occurrence has a name that is free in `replacement`. -/
def Shielded (replacement : Term) (o : Occurrence) : Prop :=
  ∃ z ∈ o.binders, Term.isFree z replacement = true

/-- The occurrence is a free one of `name`, and no binder above it would capture a free name of
`replacement`. -/
def Replaceable (name : String) (replacement : Term) (o : Occurrence) : Prop :=
  o.name = name ∧ o.IsFree ∧ ¬ o.Shielded replacement

instance (o : Occurrence) : Decidable o.IsFree :=
  inferInstanceAs (Decidable (_ ∉ _))

instance (replacement : Term) (o : Occurrence) : Decidable (o.Shielded replacement) :=
  inferInstanceAs (Decidable (∃ z ∈ o.binders, Term.isFree z replacement = true))

instance (name : String) (replacement : Term) (o : Occurrence) :
    Decidable (o.Replaceable name replacement) :=
  inferInstanceAs (Decidable (_ ∧ _ ∧ ¬ _))

theorem isFree_under {binder : String} {o : Occurrence} :
    (o.under binder).IsFree ↔ binder ≠ o.name ∧ o.IsFree := by
  simp only [IsFree, under, List.mem_cons, not_or]
  exact and_congr_left' ne_comm

theorem shielded_under {replacement : Term} {binder : String} {o : Occurrence} :
    (o.under binder).Shielded replacement ↔
      Term.isFree binder replacement = true ∨ o.Shielded replacement := by
  simp only [Shielded, under, List.mem_cons, exists_eq_or_imp]

/-- An occurrence under no binder is replaceable by anything. -/
theorem replaceable_root (name : String) (replacement : Term) :
    Replaceable name replacement ⟨name, []⟩ := by
  refine ⟨rfl, List.not_mem_nil, ?_⟩
  intro shielded
  obtain ⟨z, above, -⟩ := shielded
  cases above

theorem replaceable_under {name binder : String} {replacement : Term} {o : Occurrence} :
    (o.under binder).Replaceable name replacement ↔
      binder ≠ name ∧ Term.isFree binder replacement = false ∧ o.Replaceable name replacement := by
  rw [Replaceable, Replaceable, isFree_under, shielded_under, not_or, Bool.not_eq_true]
  constructor
  · intro replaceable
    obtain ⟨rfl, ⟨other, free⟩, harmless, unshielded⟩ := replaceable
    exact ⟨other, harmless, rfl, free, unshielded⟩
  · intro replaceable
    obtain ⟨other, harmless, rfl, free, unshielded⟩ := replaceable
    exact ⟨rfl, ⟨other, free⟩, harmless, unshielded⟩

end Occurrence

namespace Term

/-- The occurrences of variables, in the order in which they are printed. -/
def occurrences : Term → List Occurrence
  | .var name => [⟨name, []⟩]
  | .abs name body => body.occurrences.map (Occurrence.under name)
  | .app left right => left.occurrences ++ right.occurrences

/-- A free occurrence of `name` lies under a binder whose name is free in `replacement`. -/
def Declines (t : Term) (name : String) (replacement : Term) : Prop :=
  ∃ o ∈ t.occurrences, o.name = name ∧ o.IsFree ∧ o.Shielded replacement

instance (t : Term) (name : String) (replacement : Term) :
    Decidable (t.Declines name replacement) :=
  inferInstanceAs (Decidable (∃ o ∈ t.occurrences, o.name = name ∧ o.IsFree ∧ _))

/-! ## Free names -/

@[simp]
theorem isFree_eq_true {name : String} {t : Term} :
    isFree name t = true ↔ name ∈ t.freeNames := by
  rw [isFree, List.contains_iff_mem]

/-- The free names are the names of the free occurrences, one for one. -/
theorem freeNames_eq_map_occurrences (t : Term) :
    t.freeNames = (t.occurrences.filter (·.IsFree)).map Occurrence.name := by
  induction t with
  | var name => simp [freeNames, occurrences, Occurrence.IsFree]
  | abs name body ih =>
    have pointwise : ∀ o ∈ body.occurrences,
        (decide (o.name ≠ name) && decide o.IsFree) = decide (o.under name).IsFree := by
      intro o _
      rw [← Bool.decide_and, decide_eq_decide, Occurrence.isFree_under, ne_comm]
    calc (abs name body).freeNames
        = ((body.occurrences.filter (·.IsFree)).map Occurrence.name).filter (· ≠ name) := by
          rw [freeNames, ih]
      _ = (body.occurrences.filter fun o => decide (o.name ≠ name) && decide o.IsFree).map
            Occurrence.name := by
          rw [List.filter_map, List.filter_filter]
          rfl
      _ = ((abs name body).occurrences.filter (·.IsFree)).map Occurrence.name := by
          rw [List.filter_congr pointwise, occurrences, List.filter_map, List.map_map]
          rfl
  | app left right ihLeft ihRight =>
    rw [freeNames, occurrences, ihLeft, ihRight, List.filter_append, List.map_append]

theorem mem_freeNames_iff {name : String} {t : Term} :
    name ∈ t.freeNames ↔ ∃ o ∈ t.occurrences, o.name = name ∧ o.IsFree := by
  rw [freeNames_eq_map_occurrences]
  simp only [List.mem_map, List.mem_filter, decide_eq_true_eq]
  constructor
  · intro occurs
    obtain ⟨o, ⟨member, free⟩, named⟩ := occurs
    exact ⟨o, member, named, free⟩
  · intro occurs
    obtain ⟨o, member, named, free⟩ := occurs
    exact ⟨o, ⟨member, free⟩, named⟩

/-- At a replaceable occurrence no binder captures a free name of the replacement. -/
theorem isFree_below_iff {name : String} {replacement : Term} {o inner : Occurrence}
    (replaceable : o.Replaceable name replacement)
    (inside : inner ∈ replacement.occurrences) :
    (inner.below o.binders).IsFree ↔ inner.IsFree := by
  constructor
  · intro free bound
    exact free (List.mem_append_right _ bound)
  · intro free bound
    rcases List.mem_append.1 bound with outside | within
    · have freeName : inner.name ∈ replacement.freeNames :=
        mem_freeNames_iff.2 ⟨inner, inside, rfl, free⟩
      exact replaceable.2.2 ⟨inner.name, outside, isFree_eq_true.2 freeName⟩
    · exact free within

/-! ## Where substitution declines -/

theorem not_declines_var (x name : String) (replacement : Term) :
    ¬ (var x).Declines name replacement := by
  intro declined
  obtain ⟨o, member, -, -, z, above, -⟩ := declined
  rw [occurrences, List.mem_singleton] at member
  subst member
  cases above

theorem declines_app {left right replacement : Term} {name : String} :
    (app left right).Declines name replacement ↔
      left.Declines name replacement ∨ right.Declines name replacement := by
  simp only [Declines, occurrences, List.mem_append, or_and_right, exists_or]

/-- Below a binder of the variable's own name there is no free occurrence of it. -/
theorem not_declines_abs_self (name : String) (body replacement : Term) :
    ¬ (abs name body).Declines name replacement := by
  intro declined
  obtain ⟨o, member, named, free, -⟩ := declined
  obtain ⟨p, -, rfl⟩ := List.mem_map.1 member
  exact (Occurrence.isFree_under.1 free).1 named.symm

/-- Below a binder that captures, every free occurrence is left alone. -/
theorem declines_abs_of_isFree {x name : String} {body replacement : Term} (other : x ≠ name)
    (captures : x ∈ replacement.freeNames) :
    (abs x body).Declines name replacement ↔ name ∈ body.freeNames := by
  rw [mem_freeNames_iff]
  constructor
  · intro declined
    obtain ⟨o, member, named, free, -⟩ := declined
    obtain ⟨p, inner, rfl⟩ := List.mem_map.1 member
    exact ⟨p, inner, named, (Occurrence.isFree_under.1 free).2⟩
  · intro occurs
    obtain ⟨o, inner, rfl, free⟩ := occurs
    exact ⟨o.under x, List.mem_map_of_mem inner, rfl, Occurrence.isFree_under.2 ⟨other, free⟩,
      Occurrence.shielded_under.2 (.inl (isFree_eq_true.2 captures))⟩

/-- Any other binder makes no difference. -/
theorem declines_abs_of_not_isFree {x name : String} {body replacement : Term} (other : x ≠ name)
    (harmless : x ∉ replacement.freeNames) :
    (abs x body).Declines name replacement ↔ body.Declines name replacement := by
  constructor
  · intro declined
    obtain ⟨o, member, named, free, shielded⟩ := declined
    obtain ⟨p, inner, rfl⟩ := List.mem_map.1 member
    refine ⟨p, inner, named, (Occurrence.isFree_under.1 free).2, ?_⟩
    rcases Occurrence.shielded_under.1 shielded with captures | shielded
    · exact (harmless (isFree_eq_true.1 captures)).elim
    · exact shielded
  · intro declined
    obtain ⟨o, inner, rfl, free, shielded⟩ := declined
    exact ⟨o.under x, List.mem_map_of_mem inner, rfl, Occurrence.isFree_under.2 ⟨other, free⟩,
      Occurrence.shielded_under.2 (.inr shielded)⟩

/-- A closed replacement is never declined. -/
theorem not_declines_of_closed {t replacement : Term} {name : String}
    (closed : replacement.freeNames = []) : ¬ t.Declines name replacement := by
  intro declined
  obtain ⟨o, -, -, -, z, -, captures⟩ := declined
  rw [isFree_eq_true, closed] at captures
  cases captures

end Term

end Stepwise
