import Stepwise.Proofs.Term.Occurrence
import Stepwise.Proofs.Term.Position

/-!
# What substitution replaces

A position of a term has a site: the binders above it and the part of the term that stands there.
Substitution for `x` puts the replacement at the sites where a free `x` stands below no binder that
would capture, and changes no node anywhere else (`Term.subst_replaces_exactly`).  Of the
occurrences that are free in the replacement none is bound at such a site.
-/

namespace Stepwise

/-- A place in a term: the names of the binders above it, outermost first, and the part of the term
that stands there. -/
structure Site where
  binders : List String
  part : Term
deriving DecidableEq

/-- The site as seen from above the binders `outer`. -/
def Site.below (outer : List String) (s : Site) : Site := { s with binders := outer ++ s.binders }

namespace Term

/-- A node of a term, whatever hangs below it. -/
inductive Node where
  | var (name : String)
  | binder (name : String)
  | application
deriving DecidableEq

/-- The node at the root. -/
def node : Term → Node
  | var x => .var x
  | abs x _ => .binder x
  | app _ _ => .application

/-- The site at a position. -/
def siteAt? : Term → Position → Option Site
  | t, [] => some ⟨[], t⟩
  | abs x body, .body :: p => (body.siteAt? p).map (Site.below [x])
  | app left _, .left :: p => left.siteAt? p
  | app _ right, .right :: p => right.siteAt? p
  | _, _ => none

/-- The node at a position. -/
def nodeAt? (t : Term) (p : Position) : Option Node := (t.siteAt? p).map (·.part.node)

/-- At the position `p`, below the binders `zs`, stands a free occurrence of `x`, and no binder
above it has a name that is free in `replacement`. -/
def ReplaceableAt (t : Term) (x : String) (replacement : Term) (p : Position)
    (zs : List String) : Prop :=
  t.siteAt? p = some ⟨zs, .var x⟩ ∧ Occurrence.Replaceable x replacement ⟨x, zs⟩

variable {t body replacement : Term} {x z : String} {p q : Position} {zs : List String}

/-! ## Sites -/

theorem siteAt?_nil (t : Term) : t.siteAt? [] = some ⟨[], t⟩ := by
  cases t <;> rfl

/-- A site of the part at a position is a site of the whole. -/
theorem siteAt?_append (t : Term) (p q : Position) :
    t.siteAt? (p ++ q) =
      (t.siteAt? p).bind fun s => (s.part.siteAt? q).map (Site.below s.binders) := by
  induction p generalizing t with
  | nil =>
    have same : Site.below [] = id := rfl
    rw [siteAt?_nil, List.nil_append, Option.bind_some, same, Option.map_id, id]
  | cons branch p ih =>
    cases t with
    | var x => cases branch <;> rfl
    | abs x body =>
      cases branch with
      | body =>
        rw [List.cons_append, siteAt?, siteAt?, ih]
        cases body.siteAt? p with
        | none => rfl
        | some s => exact Option.map_map ..
      | left => rfl
      | right => rfl
    | app left right =>
      cases branch with
      | body => rfl
      | left => exact ih left
      | right => exact ih right

theorem siteAt?_abs_body_eq_some {part : Term} :
    (abs z body).siteAt? (.body :: p) = some ⟨zs, part⟩ ↔
      ∃ inner, zs = z :: inner ∧ body.siteAt? p = some ⟨inner, part⟩ := by
  rw [siteAt?, Option.map_eq_some_iff]
  constructor
  · intro found
    obtain ⟨⟨inner, _⟩, here, same⟩ := found
    cases same
    exact ⟨inner, rfl, here⟩
  · intro found
    obtain ⟨inner, rfl, here⟩ := found
    exact ⟨⟨inner, part⟩, here, rfl⟩

theorem nodeAt?_abs_body (z : String) (body : Term) (p : Position) :
    (abs z body).nodeAt? (.body :: p) = body.nodeAt? p := by
  rw [nodeAt?, siteAt?, Option.map_map]
  rfl

/-- A variable at a site is an occurrence. -/
theorem mem_occurrences_of_siteAt? (here : t.siteAt? p = some ⟨zs, .var x⟩) :
    ⟨x, zs⟩ ∈ t.occurrences := by
  induction t generalizing p zs with
  | var y =>
    rcases p with _ | ⟨_ | _ | _, p⟩ <;> cases here
    exact List.mem_singleton_self _
  | abs y body ih =>
    rcases p with _ | ⟨_ | _ | _, p⟩
    · cases here
    · obtain ⟨inner, rfl, inside⟩ := siteAt?_abs_body_eq_some.1 here
      exact List.mem_map_of_mem (ih inside)
    · cases here
    · cases here
  | app left right ihLeft ihRight =>
    rcases p with _ | ⟨_ | _ | _, p⟩
    · cases here
    · cases here
    · exact List.mem_append_left _ (ihLeft here)
    · exact List.mem_append_right _ (ihRight here)

/-! ## Replaceable sites -/

/-- What is replaceable below a binder is replaceable in its body, and the binder neither binds the
variable nor captures. -/
theorem replaceableAt_abs : (abs z body).ReplaceableAt x replacement p zs ↔
    ∃ q inner, p = .body :: q ∧ zs = z :: inner ∧ z ≠ x ∧ isFree z replacement = false ∧
      body.ReplaceableAt x replacement q inner := by
  constructor
  · intro replaceable
    obtain ⟨here, replaceable⟩ := replaceable
    rcases p with _ | ⟨_ | _ | _, p⟩
    · cases here
    · obtain ⟨inner, rfl, inside⟩ := siteAt?_abs_body_eq_some.1 here
      obtain ⟨other, harmless, replaceable⟩ :=
        (@Occurrence.replaceable_under x z replacement ⟨x, inner⟩).1 replaceable
      exact ⟨p, inner, rfl, rfl, other, harmless, inside, replaceable⟩
    · cases here
    · cases here
  · intro replaceable
    obtain ⟨q, inner, rfl, rfl, other, harmless, inside, replaceable⟩ := replaceable
    exact ⟨siteAt?_abs_body_eq_some.2 ⟨inner, rfl, inside⟩,
      Occurrence.replaceable_under.2 ⟨other, harmless, replaceable⟩⟩

/-- The replacement stands where a replaceable occurrence stood, below the same binders. -/
theorem siteAt?_subst (replaceable : t.ReplaceableAt x replacement p zs) :
    (t.subst x replacement).siteAt? p = some ⟨zs, replacement⟩ := by
  induction t generalizing p zs with
  | var y =>
    obtain ⟨here, -⟩ := replaceable
    rcases p with _ | ⟨_ | _ | _, p⟩ <;> cases here
    rw [subst, if_pos rfl, siteAt?_nil]
  | abs z body ih =>
    obtain ⟨q, inner, rfl, rfl, other, harmless, inside⟩ := replaceableAt_abs.1 replaceable
    rw [subst, if_neg other, if_neg (by simp [harmless])]
    exact siteAt?_abs_body_eq_some.2 ⟨inner, rfl, ih inside⟩
  | app left right ihLeft ihRight =>
    rcases p with _ | ⟨_ | _ | _, p⟩
    · cases replaceable.1
    · cases replaceable.1
    · exact ihLeft replaceable
    · exact ihRight replaceable

/-- A node that is not at or below a replaceable occurrence is kept. -/
theorem nodeAt?_subst (elsewhere : ∀ p zs, t.ReplaceableAt x replacement p zs → ¬ p <+: q) :
    (t.subst x replacement).nodeAt? q = t.nodeAt? q := by
  induction t generalizing q with
  | var y =>
    by_cases same : y = x
    · subst same
      have here : (var y).ReplaceableAt y replacement [] [] :=
        ⟨rfl, Occurrence.replaceable_root y replacement⟩
      exact (elsewhere [] [] here List.nil_prefix).elim
    · rw [subst, if_neg same]
  | abs z body ih =>
    by_cases same : z = x
    · rw [subst, if_pos same]
    · by_cases captures : isFree z replacement = true
      · rw [subst, if_neg same, if_pos captures]
      · rw [subst, if_neg same, if_neg captures]
        rcases q with _ | ⟨_ | _ | _, q⟩
        · rfl
        · rw [nodeAt?_abs_body, nodeAt?_abs_body]
          refine ih ?_
          -- This binder lets substitution through, so what is replaceable below it is in the whole.
          intro p zs replaceable front
          have outside : (abs z body).ReplaceableAt x replacement (.body :: p) (z :: zs) :=
            replaceableAt_abs.2 ⟨p, zs, rfl, rfl, same, eq_false_of_ne_true captures, replaceable⟩
          exact elsewhere _ _ outside (List.cons_prefix_cons.2 ⟨rfl, front⟩)
        · rfl
        · rfl
  | app left right ihLeft ihRight =>
    rcases q with _ | ⟨_ | _ | _, q⟩
    · rfl
    · rfl
    · refine ihLeft ?_
      intro p zs replaceable front
      exact elsewhere (.left :: p) zs replaceable (List.cons_prefix_cons.2 ⟨rfl, front⟩)
    · refine ihRight ?_
      intro p zs replaceable front
      exact elsewhere (.right :: p) zs replaceable (List.cons_prefix_cons.2 ⟨rfl, front⟩)

/-- Substitution replaces exactly the safe free occurrences and captures nothing.  Where a free
occurrence of `x` stands in `t` below no binder whose name is free in the replacement, the result
has the replacement, below the same binders, and an occurrence that is free in this copy of the
replacement is free in the result.  Every node that is not at or below such an occurrence is the
same in the result as in `t`. -/
theorem subst_replaces_exactly (t replacement : Term) (x : String) :
    (∀ p zs, t.ReplaceableAt x replacement p zs →
      (t.subst x replacement).siteAt? p = some ⟨zs, replacement⟩ ∧
      ∀ q ys y, replacement.siteAt? q = some ⟨ys, .var y⟩ → y ∉ ys →
        (t.subst x replacement).siteAt? (p ++ q) = some ⟨zs ++ ys, .var y⟩ ∧ y ∉ zs ++ ys) ∧
    ∀ q, (∀ p zs, t.ReplaceableAt x replacement p zs → ¬ p <+: q) →
      (t.subst x replacement).nodeAt? q = t.nodeAt? q := by
  refine ⟨?_, fun q elsewhere => nodeAt?_subst elsewhere⟩
  intro p zs replaceable
  have inserted := siteAt?_subst replaceable
  refine ⟨inserted, ?_⟩
  intro q ys y here free
  constructor
  · rw [siteAt?_append, inserted, Option.bind_some, here]
    rfl
  · exact (isFree_below_iff replaceable.2 (mem_occurrences_of_siteAt? here)).2 free

/-- In `λz.(x λy.x)` the first `x` is replaced by `λw.(w y)`, in which `y` stays free.  The second
one lies below a binder `y` and is left alone. -/
theorem subst_replaces_exactly_one_of_two :
    ((abs "z" (app (var "x") (abs "y" (var "x")))).subst "x"
        (abs "w" (app (var "w") (var "y")))).siteAt? ([.body, .left] ++ [.body, .right]) =
      some ⟨["z"] ++ ["w"], var "y"⟩ ∧
    ((abs "z" (app (var "x") (abs "y" (var "x")))).subst "x"
        (abs "w" (app (var "w") (var "y")))).nodeAt? [.body, .right, .body] =
      some (.var "x") := by
  obtain ⟨replaced, kept⟩ := subst_replaces_exactly
    (abs "z" (app (var "x") (abs "y" (var "x")))) (abs "w" (app (var "w") (var "y"))) "x"
  constructor
  · obtain ⟨-, uncaptured⟩ := replaced [.body, .left] ["z"] ⟨rfl, by decide⟩
    exact (uncaptured [.body, .right] ["w"] "y" rfl (by decide)).1
  · refine kept [.body, .right, .body] ?_
    intro p zs replaceable front
    obtain ⟨q, inner, rfl, rfl, -, -, inside⟩ := replaceableAt_abs.1 replaceable
    rcases q with _ | ⟨_ | _ | _, q⟩
    · cases inside.1
    · cases inside.1
    · simp at front
    · obtain ⟨-, -, -, -, -, harmless, -⟩ := replaceableAt_abs.1 inside
      revert harmless
      decide

end Term

end Stepwise
