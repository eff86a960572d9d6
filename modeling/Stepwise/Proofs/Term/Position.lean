import Stepwise.Term.Basic

/-!
# Positions

A position is the way from the root of a term to one of its nodes.  Two terms can be compared node
by node: `Term.varAt?` and `Term.binderAt?` tell the names at a position, and a term is determined
by them (`Term.eq_of_names_eq`).

A traversal that takes the left side of an application before the right one, and a body before its
binder, has met exactly those variables before the binder at `p` that lie in its body or to its
left.  `Term.namesBefore` lists their names, and `Term.mem_namesBefore_iff` says so by positions.
-/

namespace Stepwise

/-- The way from a node to one of its children. -/
inductive Branch where
  | body
  | left
  | right
deriving DecidableEq

/-- The way from the root of a term to one of its nodes. -/
abbrev Position := List Branch

namespace Position

/-- `q` lies in the body of the abstraction at `p`. -/
def InBodyOf (q p : Position) : Prop := p ++ [.body] <+: q

/-- `q` lies to the left of `p`: they part at an application. -/
def LeftOf (q p : Position) : Prop :=
  ∃ common : Position, common ++ [.left] <+: q ∧ common ++ [.right] <+: p

variable {s s' : Branch} {p q : Position}

@[simp]
theorem not_nil_inBodyOf : ¬ InBodyOf [] p := by
  simp [InBodyOf]

@[simp]
theorem cons_inBodyOf_nil : InBodyOf (s :: q) [] ↔ s = .body := by
  simp [InBodyOf, List.cons_prefix_cons, eq_comm]

@[simp]
theorem cons_inBodyOf_cons : InBodyOf (s :: q) (s' :: p) ↔ s = s' ∧ InBodyOf q p := by
  rw [InBodyOf, List.cons_append, List.cons_prefix_cons, eq_comm, InBodyOf]

@[simp]
theorem not_nil_leftOf : ¬ LeftOf [] p := by
  simp [LeftOf]

@[simp]
theorem not_leftOf_nil : ¬ LeftOf q [] := by
  simp [LeftOf]

@[simp]
theorem cons_leftOf_cons :
    LeftOf (s :: q) (s' :: p) ↔ (s = .left ∧ s' = .right) ∨ (s = s' ∧ LeftOf q p) := by
  constructor
  · intro parts
    obtain ⟨common, left, right⟩ := parts
    cases common with
    | nil =>
      obtain ⟨rfl, -⟩ := List.cons_prefix_cons.1 left
      obtain ⟨rfl, -⟩ := List.cons_prefix_cons.1 right
      exact .inl ⟨rfl, rfl⟩
    | cons first common =>
      obtain ⟨rfl, leftInside⟩ := List.cons_prefix_cons.1 left
      obtain ⟨rfl, rightInside⟩ := List.cons_prefix_cons.1 right
      exact .inr ⟨rfl, common, leftInside, rightInside⟩
  · intro parts
    rcases parts with ⟨rfl, rfl⟩ | ⟨rfl, common, left, right⟩
    · exact ⟨[], ⟨q, rfl⟩, ⟨p, rfl⟩⟩
    · exact ⟨s :: common, List.cons_prefix_cons.2 ⟨rfl, left⟩,
        List.cons_prefix_cons.2 ⟨rfl, right⟩⟩

/-- A position is the root or begins with one of the branches. -/
theorem exists_iff {P : Position → Prop} :
    (∃ p, P p) ↔ P [] ∨ (∃ p, P (.body :: p)) ∨ (∃ p, P (.left :: p)) ∨ ∃ p, P (.right :: p) := by
  constructor
  · intro found
    rcases found with ⟨_ | ⟨_ | _ | _, p⟩, holds⟩
    · exact .inl holds
    · exact .inr (.inl ⟨p, holds⟩)
    · exact .inr (.inr (.inl ⟨p, holds⟩))
    · exact .inr (.inr (.inr ⟨p, holds⟩))
  · intro found
    rcases found with holds | ⟨p, holds⟩ | ⟨p, holds⟩ | ⟨p, holds⟩ <;> exact ⟨_, holds⟩

end Position

namespace Term

/-- The names of the variables, from left to right. -/
def varNames : Term → List String
  | var x => [x]
  | abs _ body => body.varNames
  | app left right => left.varNames ++ right.varNames

/-- The names of the binders, from left to right. -/
def binderNames : Term → List String
  | var _ => []
  | abs x body => x :: body.binderNames
  | app left right => left.binderNames ++ right.binderNames

/-- The name of the variable at a position. -/
def varAt? : Term → Position → Option String
  | var x, [] => some x
  | abs _ body, .body :: p => body.varAt? p
  | app left _, .left :: p => left.varAt? p
  | app _ right, .right :: p => right.varAt? p
  | _, _ => none

/-- The name of the binder at a position. -/
def binderAt? : Term → Position → Option String
  | abs x _, [] => some x
  | abs _ body, .body :: p => body.binderAt? p
  | app left _, .left :: p => left.binderAt? p
  | app _ right, .right :: p => right.binderAt? p
  | _, _ => none

/-- The names of the variables in the body of the abstraction at a position and to its left. -/
def namesBefore : Term → Position → List String
  | abs _ body, [] => body.varNames
  | abs _ body, .body :: p => body.namesBefore p
  | app left _, .left :: p => left.namesBefore p
  | app left right, .right :: p => left.varNames ++ right.namesBefore p
  | _, _ => []

/-- Renames variables and binders alike. -/
def rename (f : String → String) : Term → Term
  | var x => var (f x)
  | abs x body => abs (f x) (body.rename f)
  | app left right => app (left.rename f) (right.rename f)

/-- The tree of a term, its names forgotten. -/
def shape (t : Term) : Term := t.rename fun _ => ""

/-! ## Names at positions -/

theorem varAt?_abs_eq_some {x z : String} {body : Term} {p : Position} :
    (abs z body).varAt? p = some x ↔ ∃ q, p = .body :: q ∧ body.varAt? q = some x := by
  rcases p with _ | ⟨_ | _ | _, p⟩ <;> simp [varAt?]

theorem varAt?_app_eq_some {x : String} {left right : Term} {p : Position} :
    (app left right).varAt? p = some x ↔
      (∃ q, p = .left :: q ∧ left.varAt? q = some x) ∨
        ∃ q, p = .right :: q ∧ right.varAt? q = some x := by
  rcases p with _ | ⟨_ | _ | _, p⟩ <;> simp [varAt?]

theorem mem_varNames_iff {x : String} {t : Term} :
    x ∈ t.varNames ↔ ∃ p, t.varAt? p = some x := by
  induction t with
  | var y => simp [Position.exists_iff, varNames, varAt?, eq_comm]
  | abs y body ih => simp [@Position.exists_iff (varAt? _ · = _), varNames, varAt?, ih]
  | app left right ihLeft ihRight =>
    simp [@Position.exists_iff (varAt? (app _ _) · = _), varNames, varAt?, ihLeft, ihRight]

theorem mem_binderNames_of_binderAt? {x : String} {t : Term} {p : Position}
    (here : t.binderAt? p = some x) : x ∈ t.binderNames := by
  induction t generalizing p with
  | var y => cases p <;> cases here
  | abs y body ih =>
    rcases p with _ | ⟨_ | _ | _, p⟩
    · cases here
      exact List.mem_cons_self
    · exact List.mem_cons_of_mem y (ih here)
    · cases here
    · cases here
  | app left right ihLeft ihRight =>
    rcases p with _ | ⟨_ | _ | _, p⟩
    · cases here
    · cases here
    · exact List.mem_append_left _ (ihLeft here)
    · exact List.mem_append_right _ (ihRight here)

/-- The names before a binder are those of the variables in its body and to its left. -/
theorem mem_namesBefore_iff {x : String} {t : Term} {p : Position} :
    x ∈ t.namesBefore p ↔ ∃ q, t.varAt? q = some x ∧ (q.InBodyOf p ∨ q.LeftOf p) := by
  induction t generalizing p with
  | var y =>
    rw [Position.exists_iff]
    simp [namesBefore, varAt?]
  | abs y body ih =>
    rw [Position.exists_iff]
    rcases p with _ | ⟨_ | _ | _, p⟩ <;> simp [namesBefore, varAt?, mem_varNames_iff, ih]
  | app left right ihLeft ihRight =>
    rw [Position.exists_iff]
    rcases p with _ | ⟨_ | _ | _, p⟩ <;>
      simp [namesBefore, varAt?, mem_varNames_iff, ihLeft, ihRight]

theorem mem_varNames_of_mem_namesBefore {x : String} {t : Term} {p : Position}
    (before : x ∈ t.namesBefore p) : x ∈ t.varNames := by
  obtain ⟨q, varQ, -⟩ := mem_namesBefore_iff.1 before
  exact mem_varNames_iff.2 ⟨q, varQ⟩

/-- A term is determined by the names at its positions. -/
theorem eq_of_names_eq {a b : Term} (vars : ∀ p, a.varAt? p = b.varAt? p)
    (binders : ∀ p, a.binderAt? p = b.binderAt? p) : a = b := by
  induction a generalizing b with
  | var x =>
    have here := vars []
    cases b with
    | var y => simpa [varAt?] using here
    | abs y body => cases here
    | app left right => cases here
  | abs x body ih =>
    have here := binders []
    cases b with
    | var y => cases here
    | abs y other =>
      rw [ih (fun p => vars (.body :: p)) fun p => binders (.body :: p), Option.some.inj here]
    | app left right => cases here
  | app left right ihLeft ihRight =>
    cases b with
    | var y => cases vars []
    | abs y body => cases binders []
    | app left' right' =>
      rw [ihLeft (fun p => vars (.left :: p)) fun p => binders (.left :: p),
        ihRight (fun p => vars (.right :: p)) fun p => binders (.right :: p)]

/-! ## Renaming -/

theorem varAt?_rename (f : String → String) (t : Term) (p : Position) :
    (t.rename f).varAt? p = (t.varAt? p).map f := by
  induction t generalizing p with
  | var x => cases p <;> rfl
  | abs x body ih => rcases p with _ | ⟨_ | _ | _, p⟩ <;> simp [rename, varAt?, ih]
  | app left right ihLeft ihRight =>
    rcases p with _ | ⟨_ | _ | _, p⟩ <;> simp [rename, varAt?, ihLeft, ihRight]

theorem binderAt?_rename (f : String → String) (t : Term) (p : Position) :
    (t.rename f).binderAt? p = (t.binderAt? p).map f := by
  induction t generalizing p with
  | var x => cases p <;> rfl
  | abs x body ih => rcases p with _ | ⟨_ | _ | _, p⟩ <;> simp [rename, binderAt?, ih]
  | app left right ihLeft ihRight =>
    rcases p with _ | ⟨_ | _ | _, p⟩ <;> simp [rename, binderAt?, ihLeft, ihRight]

end Term

end Stepwise
