import Mathlib.Data.List.Forall2
import Mathlib.Data.Set.Function
import Stepwise.Proofs.Term.Nameless
import Stepwise.Proofs.Term.Position

/-!
# Renaming and nameless forms

A nameless form has names only for its free occurrences, so renaming a term should do no more than
rename these.  It does no more if each binder, renamed or not, catches the same variables of its
body as before (`Term.Renames.nameless_eq`), as it does if all names are told apart.  All that a
nameless form forgets of a term are the names of its binders (`Term.eq_of_nameless_eq`).
-/

namespace Stepwise

namespace Nameless

/-- Renames the free occurrences. -/
def mapFree (f : String → String) : Nameless → Nameless
  | bound i => bound i
  | free x => free (f x)
  | abs body => abs (body.mapFree f)
  | app left right => app (left.mapFree f) (right.mapFree f)

/-- The names of the free occurrences, from left to right. -/
def freeNames : Nameless → List String
  | bound _ => []
  | free x => [x]
  | abs body => body.freeNames
  | app left right => left.freeNames ++ right.freeNames

/-- The number of binders. -/
def binderCount : Nameless → Nat
  | bound _ => 0
  | free _ => 0
  | abs body => body.binderCount + 1
  | app left right => left.binderCount + right.binderCount

/-! ## Renaming free occurrences -/

variable {f g : String → String}

theorem mapFree_lift (t : Nameless) (k : Nat) : (t.lift k).mapFree f = (t.mapFree f).lift k := by
  induction t generalizing k with
  | bound i =>
    rcases Nat.lt_or_ge i k with inner | outer
    · rw [mapFree, lift_bound_of_lt inner, mapFree]
    · rw [mapFree, lift_bound_of_le outer, mapFree]
  | free x => rfl
  | abs body ih => rw [lift, mapFree, mapFree, lift, ih]
  | app left right ihLeft ihRight => rw [lift, mapFree, mapFree, lift, ihLeft, ihRight]

theorem mapFree_mapFree (t : Nameless) : (t.mapFree f).mapFree g = t.mapFree (g ∘ f) := by
  induction t with
  | bound i => rfl
  | free x => rfl
  | abs body ih => rw [mapFree, mapFree, mapFree, ih]
  | app left right ihLeft ihRight => rw [mapFree, mapFree, mapFree, ihLeft, ihRight]

theorem mapFree_congr {t : Nameless} (agree : ∀ x ∈ t.freeNames, f x = g x) :
    t.mapFree f = t.mapFree g := by
  induction t with
  | bound i => rfl
  | free x => rw [mapFree, mapFree, agree x (by simp [freeNames])]
  | abs body ih => rw [mapFree, mapFree, ih agree]
  | app left right ihLeft ihRight =>
    rw [mapFree, mapFree, ihLeft fun x member => agree x (List.mem_append_left _ member),
      ihRight fun x member => agree x (List.mem_append_right _ member)]

theorem mapFree_id (t : Nameless) : t.mapFree id = t := by
  induction t with
  | bound i => rfl
  | free x => rfl
  | abs body ih => rw [mapFree, ih]
  | app left right ihLeft ihRight => rw [mapFree, ihLeft, ihRight]

theorem freeNames_mapFree (t : Nameless) : (t.mapFree f).freeNames = t.freeNames.map f := by
  induction t with
  | bound i => rfl
  | free x => rfl
  | abs body ih => exact ih
  | app left right ihLeft ihRight =>
    rw [mapFree, freeNames, freeNames, ihLeft, ihRight, List.map_append]

theorem binderCount_mapFree (t : Nameless) : (t.mapFree f).binderCount = t.binderCount := by
  induction t with
  | bound i => rfl
  | free x => rfl
  | abs body ih => rw [mapFree, binderCount, binderCount, ih]
  | app left right ihLeft ihRight => rw [mapFree, binderCount, binderCount, ihLeft, ihRight]

/-- An occurrence may be renamed together with the binders in scope if they catch it as before. -/
theorem mapFree_ofName {scope scope' : List String} {x : String}
    (catches : List.Forall₂ (fun z z' => z = x ↔ z' = f x) scope scope') :
    (ofName scope x).mapFree f = ofName scope' (f x) := by
  induction catches with
  | nil => rfl
  | @cons z z' scope scope' here _ ih =>
    by_cases same : z = x
    · rw [here.1 same, same, ofName_cons_self, ofName_cons_self, mapFree]
    · rw [ofName_cons_of_ne same, ofName_cons_of_ne (mt here.2 same), mapFree_lift, ih]

theorem freeNames_ofName (scope : List String) (x : String) :
    (ofName scope x).freeNames = [x].filter (· ∉ scope) := by
  unfold ofName
  cases found : scope.idxOf? x with
  | none => simp [freeNames, List.idxOf?_eq_none_iff.1 found]
  | some index =>
    have bound : x ∈ scope := List.isSome_idxOf?.1 (by rw [found]; rfl)
    simp [freeNames, bound]

end Nameless

namespace Term

/-! ## What the nameless form keeps -/

theorem freeNames_nameless (t : Term) (scope : List String) :
    (t.nameless scope).freeNames = t.freeNames.filter (· ∉ scope) := by
  induction t generalizing scope with
  | var x => exact Nameless.freeNames_ofName scope x
  | abs x body ih =>
    rw [nameless, Nameless.freeNames, ih, freeNames, List.filter_filter]
    refine List.filter_congr ?_
    intro y _
    rw [← Bool.decide_and, decide_eq_decide, List.mem_cons, not_or, and_comm]
  | app left right ihLeft ihRight =>
    rw [nameless, Nameless.freeNames, ihLeft, ihRight, freeNames, List.filter_append]

theorem freeNames_nameless_nil (t : Term) : (t.nameless []).freeNames = t.freeNames := by
  simp [freeNames_nameless]

theorem freeNames_mapFree_nameless {f : String → String} (t : Term) :
    ((t.nameless []).mapFree f).freeNames = t.freeNames.map f := by
  rw [Nameless.freeNames_mapFree, freeNames_nameless_nil]

theorem mem_varNames_of_mem_freeNames {x : String} {t : Term} (free : x ∈ t.freeNames) :
    x ∈ t.varNames := by
  induction t with
  | var y => exact free
  | abs y body ih => exact ih (List.mem_filter.1 free).1
  | app left right ihLeft ihRight =>
    exact List.mem_append.2 ((List.mem_append.1 free).imp ihLeft ihRight)

theorem mem_freeNames_or_mem_binderNames {x : String} {t : Term} (known : x ∈ t.varNames) :
    x ∈ t.freeNames ∨ x ∈ t.binderNames := by
  induction t with
  | var y => exact .inl known
  | abs y body ih =>
    by_cases same : x = y
    · exact .inr (same ▸ List.mem_cons_self)
    · rcases ih known with free | bound
      · exact .inl (List.mem_filter.2 ⟨free, by simpa using same⟩)
      · exact .inr (List.mem_cons_of_mem y bound)
  | app left right ihLeft ihRight =>
    rcases List.mem_append.1 known with inLeft | inRight
    · exact (ihLeft inLeft).imp (List.mem_append_left _) (List.mem_append_left _)
    · exact (ihRight inRight).imp (List.mem_append_right _) (List.mem_append_right _)

theorem binderCount_nameless (t : Term) (scope : List String) :
    (t.nameless scope).binderCount = t.binderNames.length := by
  induction t generalizing scope with
  | var x =>
    rcases Nameless.ofName_eq_bound_or_free scope x with ⟨i, -, form⟩ | form
    · rw [nameless, form]
      rfl
    · rw [nameless, form]
      rfl
  | abs x body ih => rw [nameless, Nameless.binderCount, ih, binderNames, List.length_cons]
  | app left right ihLeft ihRight =>
    rw [nameless, Nameless.binderCount, ihLeft, ihRight, binderNames, List.length_append]

/-- A term is determined by its nameless form and the names of its binders. -/
theorem eq_of_nameless_eq {a b : Term} {scope : List String}
    (same : a.nameless scope = b.nameless scope) (binders : a.binderNames = b.binderNames) :
    a = b := by
  induction a generalizing b scope with
  | var x => exact (eq_var_of_nameless_eq_ofName same.symm).symm
  | abs x body ih =>
    cases b with
    | var y => exact eq_var_of_nameless_eq_ofName same
    | app left right => cases same
    | abs y other =>
      obtain ⟨rfl, bindersInside⟩ := List.cons.inj binders
      rw [ih (Nameless.abs.inj same) bindersInside]
  | app left right ihLeft ihRight =>
    cases b with
    | var y => exact eq_var_of_nameless_eq_ofName same
    | abs y other => cases same
    | app left' right' =>
      obtain ⟨sameLeft, sameRight⟩ := Nameless.app.inj same
      have length : left.binderNames.length = left'.binderNames.length := by
        rw [← binderCount_nameless left scope, sameLeft, binderCount_nameless]
      obtain ⟨bindersLeft, bindersRight⟩ := List.append_inj binders length
      rw [ihLeft sameLeft bindersLeft, ihRight sameRight bindersRight]

/-! ## Renaming below binders -/

/-- The variables of `t` are renamed by `f`, and its binders so that they catch the same variables
of their bodies. -/
inductive Renames (f : String → String) : Term → Term → Prop
  | var (x : String) : Renames f (.var x) (.var (f x))
  | abs {x x' : String} {body body' : Term} :
    (∀ y ∈ body.varNames, x = y ↔ x' = f y) → Renames f body body' →
    Renames f (.abs x body) (.abs x' body')
  | app {left left' right right' : Term} :
    Renames f left left' → Renames f right right' →
    Renames f (.app left right) (.app left' right')

variable {f : String → String}

/-- A renaming that keeps what binders catch keeps the nameless form, but for its free names. -/
theorem Renames.nameless_eq {t u : Term} (renames : Renames f t u) {scope scope' : List String}
    (catches : List.Forall₂ (fun x x' => ∀ y ∈ t.varNames, x = y ↔ x' = f y) scope scope') :
    u.nameless scope' = (t.nameless scope).mapFree f := by
  induction renames generalizing scope scope' with
  | var x =>
    refine (Nameless.mapFree_ofName ?_).symm
    exact catches.imp fun _ _ catchesHere => catchesHere x (by simp [varNames])
  | abs catchesHere renames ih =>
    exact congrArg Nameless.abs (ih (catches.cons catchesHere))
  | app renamesLeft renamesRight ihLeft ihRight =>
    have catchesLeft := catches.imp fun _ _ catchesHere y member =>
      catchesHere y (List.mem_append_left _ member)
    have catchesRight := catches.imp fun _ _ catchesHere y member =>
      catchesHere y (List.mem_append_right _ member)
    rw [nameless, nameless, Nameless.mapFree, ihLeft catchesLeft, ihRight catchesRight]

theorem binderNames_rename (t : Term) : (t.rename f).binderNames = t.binderNames.map f := by
  induction t with
  | var x => rfl
  | abs x body ih => rw [rename, binderNames, binderNames, ih, List.map_cons]
  | app left right ihLeft ihRight =>
    rw [rename, binderNames, binderNames, ihLeft, ihRight, List.map_append]

theorem renames_rename {t : Term}
    (injective : Set.InjOn f {x | x ∈ t.varNames ∨ x ∈ t.binderNames}) :
    Renames f t (t.rename f) := by
  induction t with
  | var x => exact .var x
  | abs x body ih =>
    refine .abs ?_ (ih (injective.mono ?_))
    · intro y inBody
      exact (injective.eq_iff (.inr List.mem_cons_self) (.inl inBody)).symm
    · intro y known
      exact known.imp_right (List.mem_cons_of_mem x)
  | app left right ihLeft ihRight =>
    refine .app (ihLeft (injective.mono ?_)) (ihRight (injective.mono ?_))
    · intro y known
      exact known.imp (List.mem_append_left _) (List.mem_append_left _)
    · intro y known
      exact known.imp (List.mem_append_right _) (List.mem_append_right _)

end Term

end Stepwise
