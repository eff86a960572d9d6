import Stepwise.Proofs.Term.Occurrence

/-!
# Nameless terms

Terms in which a bound occurrence is the number of binders between it and its own, and only free
occurrences keep their names.  Substitution for an index renumbers what it passes and captures
nothing, so it is the measure for substitution on named terms.

`Term.nameless scope` translates a term below the binders `scope`, innermost first.  The lemmas
here say how the translation depends on the scope: a binder that no free name of the term refers to
is a gap in the numbering (`Term.nameless_insert`), and filling a gap with anything closes it
(`Term.subst_nameless_of_unused`).
-/

namespace Stepwise

/-- A term with indices for bound occurrences. -/
inductive Nameless where
  /-- An occurrence bound by the binder with `index` others in between. -/
  | bound (index : Nat)
  /-- A free occurrence. -/
  | free (name : String)
  | abs (body : Nameless)
  | app (left right : Nameless)
deriving DecidableEq

namespace Nameless

/-- The term below one more binder, which is inserted outside the `depth` innermost ones. -/
def lift : Nameless → Nat → Nameless
  | bound i, depth => if i < depth then bound i else bound (i + 1)
  | free name, _ => free name
  | abs body, depth => abs (body.lift (depth + 1))
  | app left right, depth => app (left.lift depth) (right.lift depth)

/-- The term with `replacement` in the place of the index `k`, whose binder is removed. -/
def subst : Nameless → Nat → Nameless → Nameless
  | bound i, k, replacement =>
    if i < k then bound i else if i = k then replacement else bound (i - 1)
  | free name, _, _ => free name
  | abs body, k, replacement => abs (body.subst (k + 1) (replacement.lift 0))
  | app left right, k, replacement => app (left.subst k replacement) (right.subst k replacement)

/-- The occurrence of `name` below the binders `scope`, innermost first. -/
def ofName (scope : List String) (name : String) : Nameless :=
  match scope.idxOf? name with
  | some index => bound index
  | none => free name

end Nameless

/-- The nameless form of a term below the binders `scope`, innermost first. -/
def Term.nameless (scope : List String) : Term → Nameless
  | .var name => .ofName scope name
  | .abs name body => .abs (body.nameless (name :: scope))
  | .app left right => .app (left.nameless scope) (right.nameless scope)

namespace Nameless

/-! ## Lifting -/

theorem lift_bound_of_lt {i depth : Nat} (inner : i < depth) :
    (bound i).lift depth = bound i := if_pos inner

theorem lift_bound_of_le {i depth : Nat} (outer : depth ≤ i) :
    (bound i).lift depth = bound (i + 1) := if_neg (Nat.not_lt.2 outer)

/-- Two binders may be inserted in either order. -/
theorem lift_lift (t : Nameless) {i k : Nat} (le : i ≤ k) :
    (t.lift k).lift i = (t.lift i).lift (k + 1) := by
  induction t generalizing i k with
  | bound j =>
    rcases Nat.lt_or_ge j i with inner | outer
    · rw [lift_bound_of_lt (Nat.lt_of_lt_of_le inner le), lift_bound_of_lt inner,
        lift_bound_of_lt (by omega)]
    · rw [lift_bound_of_le outer]
      rcases Nat.lt_or_ge j k with between | beyond
      · rw [lift_bound_of_lt between, lift_bound_of_le outer, lift_bound_of_lt (by omega)]
      · rw [lift_bound_of_le beyond, lift_bound_of_le (by omega), lift_bound_of_le (by omega)]
  | free name => rfl
  | abs body ih => rw [lift, lift, lift, lift, ih (Nat.succ_le_succ le)]
  | app left right ihLeft ihRight => rw [lift, lift, lift, lift, ihLeft le, ihRight le]

/-- Nothing refers to a binder that was just inserted. -/
theorem subst_lift (t replacement : Nameless) (k : Nat) :
    (t.lift k).subst k replacement = t := by
  induction t generalizing k replacement with
  | bound i =>
    rcases Nat.lt_or_ge i k with inner | outer
    · rw [lift_bound_of_lt inner, subst, if_pos inner]
    · rw [lift_bound_of_le outer, subst, if_neg (by omega), if_neg (by omega)]
      rfl
  | free name => rfl
  | abs body ih => rw [lift, subst, ih]
  | app left right ihLeft ihRight => rw [lift, subst, ihLeft, ihRight]

theorem lift_injective {t u : Nameless} {k : Nat} (same : t.lift k = u.lift k) : t = u := by
  rw [← subst_lift t (bound 0) k, same, subst_lift]

/-! ## Names in scopes -/

theorem ofName_cons_self (name : String) (scope : List String) :
    ofName (name :: scope) name = bound 0 := by
  simp [ofName, List.idxOf?_cons]

theorem ofName_cons_of_ne {binder name : String} (other : binder ≠ name) (scope : List String) :
    ofName (binder :: scope) name = (ofName scope name).lift 0 := by
  unfold ofName
  rw [List.idxOf?_cons, if_neg (by simpa using other)]
  cases scope.idxOf? name <;> rfl

/-- A name that is in no inner scope refers to the binder of its own name. -/
theorem ofName_append_self {name : String} {inner : List String} (fresh : name ∉ inner)
    (outer : List String) : ofName (inner ++ name :: outer) name = bound inner.length := by
  induction inner with
  | nil => exact ofName_cons_self name outer
  | cons binder inner ih =>
    rw [List.mem_cons, not_or] at fresh
    rw [List.cons_append, ofName_cons_of_ne (Ne.symm fresh.1), ih fresh.2]
    rfl

/-- A binder of another name, or one below a binder of the same name, is a gap for a name. -/
theorem ofName_insert {binder name : String} {inner : List String}
    (unused : binder ∈ inner ∨ binder ≠ name) (outer : List String) :
    ofName (inner ++ binder :: outer) name = (ofName (inner ++ outer) name).lift inner.length := by
  induction inner with
  | nil =>
    have other : binder ≠ name := unused.resolve_left nofun
    exact ofName_cons_of_ne other outer
  | cons first inner ih =>
    by_cases same : first = name
    · subst same
      rw [List.cons_append, List.cons_append, ofName_cons_self, ofName_cons_self]
      exact (lift_bound_of_lt (Nat.succ_pos _)).symm
    · have unusedInside : binder ∈ inner ∨ binder ≠ name := by
        rcases unused with member | other
        · rcases List.mem_cons.1 member with rfl | later
          · exact .inr same
          · exact .inl later
        · exact .inr other
      rw [List.cons_append, List.cons_append, ofName_cons_of_ne same, ofName_cons_of_ne same,
        ih unusedInside, lift_lift _ (Nat.zero_le _), List.length_cons]

/-- A name is bound at a place of the scope where it stands, or free. -/
theorem ofName_eq_bound_or_free (scope : List String) (name : String) :
    (∃ index, scope[index]? = some name ∧ ofName scope name = bound index) ∨
      ofName scope name = free name := by
  unfold ofName
  cases found : scope.idxOf? name with
  | none => exact .inr rfl
  | some index =>
    obtain ⟨within, here, -⟩ := List.idxOf?_eq_some_iff.1 found
    exact .inl ⟨index, by rw [List.getElem?_eq_getElem within, here], rfl⟩

theorem ofName_injective {scope : List String} {name other : String}
    (same : ofName scope name = ofName scope other) : name = other := by
  rcases ofName_eq_bound_or_free scope name with ⟨i, here, left⟩ | left <;>
    rcases ofName_eq_bound_or_free scope other with ⟨j, there, right⟩ | right <;>
    rw [left, right] at same <;> cases same
  · exact Option.some.inj (here.symm.trans there)
  · rfl

end Nameless

namespace Term

/-- A binder that no free name of the term refers to is a gap in the numbering. -/
theorem nameless_insert {t : Term} {binder : String} {inner : List String}
    (unused : binder ∈ inner ∨ binder ∉ t.freeNames) (outer : List String) :
    t.nameless (inner ++ binder :: outer) = (t.nameless (inner ++ outer)).lift inner.length := by
  induction t generalizing inner with
  | var name =>
    refine Nameless.ofName_insert ?_ outer
    rcases unused with member | absent
    · exact .inl member
    · exact .inr (by simpa [freeNames] using absent)
  | abs name body ih =>
    have unusedInside : binder ∈ name :: inner ∨ binder ∉ body.freeNames := by
      by_cases same : binder = name
      · exact .inl (by simp [same])
      · rcases unused with member | absent
        · exact .inl (by simp [member])
        · exact .inr (by simpa [freeNames, same] using absent)
    rw [nameless, nameless, Nameless.lift]
    exact congrArg Nameless.abs (ih unusedInside)
  | app left right ihLeft ihRight =>
    have unusedLeft : binder ∈ inner ∨ binder ∉ left.freeNames :=
      unused.imp_right fun absent member => absent (List.mem_append_left _ member)
    have unusedRight : binder ∈ inner ∨ binder ∉ right.freeNames :=
      unused.imp_right fun absent member => absent (List.mem_append_right _ member)
    rw [nameless, nameless, Nameless.lift, ihLeft unusedLeft, ihRight unusedRight]

/-- Whatever is put into a gap of the numbering closes it. -/
theorem subst_nameless_of_unused {t : Term} {binder : String} {inner : List String}
    (unused : binder ∈ inner ∨ binder ∉ t.freeNames) (outer : List String)
    (replacement : Nameless) :
    (t.nameless (inner ++ binder :: outer)).subst inner.length replacement =
      t.nameless (inner ++ outer) := by
  rw [nameless_insert unused, Nameless.subst_lift]

/-- Only a variable has the nameless form of a variable, and the name is the same. -/
theorem eq_var_of_nameless_eq_ofName {t : Term} {scope : List String} {name : String}
    (same : t.nameless scope = .ofName scope name) : t = .var name := by
  cases t with
  | var other => rw [Nameless.ofName_injective same]
  | abs other body =>
    rcases Nameless.ofName_eq_bound_or_free scope name with ⟨_, -, form⟩ | form
    all_goals
      rw [form] at same
      cases same
  | app left right =>
    rcases Nameless.ofName_eq_bound_or_free scope name with ⟨_, -, form⟩ | form
    all_goals
      rw [form] at same
      cases same

end Term

end Stepwise
