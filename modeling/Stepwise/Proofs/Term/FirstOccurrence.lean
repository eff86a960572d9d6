import Stepwise.Proofs.Term.Naming

/-!
# Canonical names in two passes

Canonical names are given out while the term is traversed, by a numbering that grows on the way.
They can be told without it.  A first pass lists the names of the variables in order of first
occurrence (`Term.FirstOccurrences`): a name stands before another in the list if it occurs to the
left of all occurrences of the other.  A second pass replaces each name by its index in that list,
and each binder that has no variable of its name in its body or to its left by `_`
(`Term.IndexedBy`).  Both are said by positions alone, and together they determine the canonical
form (`Term.canonical_eq_iff_indexedBy`).
-/

namespace Stepwise

namespace Term

/-- The list has the names of the variables of `t`, each once, in order of first occurrence. -/
structure FirstOccurrences (t : Term) (names : List String) : Prop where
  distinct : names.Nodup
  occur : ∀ x, x ∈ names ↔ ∃ p, t.varAt? p = some x
  /-- Of two names the earlier one occurs to the left of every occurrence of the later one. -/
  ordered : names.Pairwise fun x y =>
    ∃ p, t.varAt? p = some x ∧ ∀ q, t.varAt? q = some y → p.LeftOf q

/-- `r` is `t` with every name replaced by its decimal index among `names`, except for the binders
that have no variable of their name in their body or to their left, which become `_`. -/
structure IndexedBy (names : List String) (t r : Term) : Prop where
  shape : r.shape = t.shape
  vars : ∀ p x, t.varAt? p = some x → r.varAt? p = some (toString (names.idxOf x))
  used : ∀ p x, t.binderAt? p = some x →
    (∃ q, t.varAt? q = some x ∧ (q.InBodyOf p ∨ q.LeftOf p)) →
    r.binderAt? p = some (toString (names.idxOf x))
  unused : ∀ p x, t.binderAt? p = some x →
    (¬ ∃ q, t.varAt? q = some x ∧ (q.InBodyOf p ∨ q.LeftOf p)) →
    r.binderAt? p = some "_"

variable {t : Term} {x y : String} {names front : List String}

/-! ## The first pass -/

/-- Distinct names are ordered by what holds of each name at its first occurrence and the names
before it. -/
theorem pairwise_eraseDups {before : String → String → Prop}
    (first : ∀ front y, front ++ [y] <+: names → y ∉ front → ∀ x ∈ front, before x y) :
    names.eraseDups.Pairwise before := by
  induction names using List.reverseRecOn with
  | nil => exact .nil
  | append_singleton names z ih =>
    have earlier : names.eraseDups.Pairwise before := by
      apply ih
      intro front y isFront
      exact first front y (isFront.trans (List.prefix_append names [z]))
    rw [← noteName_eraseDups, noteName]
    split
    · exact earlier
    · next new =>
      have unknown : z ∉ names := by simpa using new
      rw [List.pairwise_append]
      refine ⟨earlier, List.pairwise_singleton _ z, ?_⟩
      intro x known y last
      rw [List.mem_singleton] at last
      subst last
      exact first names y List.prefix_rfl unknown x (List.mem_eraseDups.1 known)

/-- A front part of two lists that ends in `y` ends in the first list, or in the second. -/
theorem concat_isPrefix_append {names more : List String}
    (isFront : front ++ [y] <+: names ++ more) :
    front ++ [y] <+: names ∨ ∃ rest, front = names ++ rest ∧ rest ++ [y] <+: more := by
  rcases List.prefix_or_prefix_of_prefix isFront (List.prefix_append names more) with
    within | beyond
  · exact .inl within
  · rcases List.prefix_concat_iff.1 beyond with ends | ⟨rest, rfl⟩
    · exact .inl (ends ▸ List.prefix_rfl)
    · rw [List.append_assoc, List.prefix_append_right_inj] at isFront
      exact .inr ⟨rest, rfl, isFront⟩

/-- A name among the variables before the first `y` occurs to the left of every `y`. -/
theorem exists_leftOf_of_isPrefix (isFront : front ++ [y] <+: t.varNames) (new : y ∉ front)
    (known : x ∈ front) :
    ∃ p, t.varAt? p = some x ∧ ∀ q, t.varAt? q = some y → p.LeftOf q := by
  induction t generalizing front with
  | var z =>
    have length := isFront.length_le
    rw [varNames, List.length_append, List.length_singleton, List.length_singleton] at length
    rw [List.eq_nil_of_length_eq_zero (show front.length = 0 by omega)] at known
    cases known
  | abs z body ih =>
    obtain ⟨p, here, left⟩ := ih isFront new known
    refine ⟨.body :: p, here, ?_⟩
    intro q there
    obtain ⟨q, rfl, inside⟩ := varAt?_abs_eq_some.1 there
    exact Position.cons_leftOf_cons.2 (.inr ⟨rfl, left q inside⟩)
  | app l r ihLeft ihRight =>
    rcases concat_isPrefix_append isFront with inLeft | ⟨rest, rfl, inRight⟩
    · obtain ⟨p, here, left⟩ := ihLeft inLeft new known
      refine ⟨.left :: p, here, ?_⟩
      intro q there
      rcases varAt?_app_eq_some.1 there with ⟨q, rfl, inside⟩ | ⟨q, rfl, -⟩
      · exact Position.cons_leftOf_cons.2 (.inr ⟨rfl, left q inside⟩)
      · exact Position.cons_leftOf_cons.2 (.inl ⟨rfl, rfl⟩)
    · -- No `y` is on the left side, so all of them are to the right of it.
      obtain ⟨notLeft, newInRest⟩ := not_or.1 (mt List.mem_append.2 new)
      have onRight : ∀ q, (app l r).varAt? q = some y →
          ∃ q', q = .right :: q' ∧ r.varAt? q' = some y := by
        intro q there
        rcases varAt?_app_eq_some.1 there with ⟨q, -, inside⟩ | onRight
        · exact (notLeft (mem_varNames_iff.2 ⟨q, inside⟩)).elim
        · exact onRight
      rcases List.mem_append.1 known with knownLeft | knownRest
      · obtain ⟨p, here⟩ := mem_varNames_iff.1 knownLeft
        refine ⟨.left :: p, here, ?_⟩
        intro q there
        obtain ⟨q, rfl, -⟩ := onRight q there
        exact Position.cons_leftOf_cons.2 (.inl ⟨rfl, rfl⟩)
      · obtain ⟨p, here, left⟩ := ihRight inRight newInRest knownRest
        refine ⟨.right :: p, here, ?_⟩
        intro q there
        obtain ⟨q, rfl, inside⟩ := onRight q there
        exact Position.cons_leftOf_cons.2 (.inr ⟨rfl, left q inside⟩)

theorem firstOccurrences_eraseDups (t : Term) : FirstOccurrences t t.varNames.eraseDups where
  distinct := nodup_eraseDups t.varNames
  occur x := by rw [List.mem_eraseDups, mem_varNames_iff]
  ordered := pairwise_eraseDups fun _ _ isFront new _ known =>
    exists_leftOf_of_isPrefix isFront new known

/-! ## The second pass -/

theorem IndexedBy.varAt?_eq_none {r : Term} {p : Position} (indexed : IndexedBy names t r)
    (absent : t.varAt? p = none) : r.varAt? p = none := by
  rw [← Option.not_isSome_iff_eq_none] at absent ⊢
  rwa [(shape_eq_iff.1 indexed.shape p).1]

theorem IndexedBy.binderAt?_eq_none {r : Term} {p : Position} (indexed : IndexedBy names t r)
    (absent : t.binderAt? p = none) : r.binderAt? p = none := by
  rw [← Option.not_isSome_iff_eq_none] at absent ⊢
  rwa [(shape_eq_iff.1 indexed.shape p).2]

/-- The second pass leaves no choice. -/
theorem IndexedBy.eq {r s : Term} (left : IndexedBy names t r) (right : IndexedBy names t s) :
    r = s := by
  refine eq_of_names_eq ?_ ?_
  · intro p
    cases here : t.varAt? p with
    | none => rw [left.varAt?_eq_none here, right.varAt?_eq_none here]
    | some x => rw [left.vars p x here, right.vars p x here]
  · intro p
    cases here : t.binderAt? p with
    | none => rw [left.binderAt?_eq_none here, right.binderAt?_eq_none here]
    | some x =>
      by_cases met : ∃ q, t.varAt? q = some x ∧ (q.InBodyOf p ∨ q.LeftOf p)
      · rw [left.used p x here met, right.used p x here met]
      · rw [left.unused p x here met, right.unused p x here met]

theorem indexedBy_canonical (t : Term) : IndexedBy t.varNames.eraseDups t t.canonical where
  shape := (sameNaming_canonical t).shape.symm
  vars p x here := by
    rw [varAt?_canonical, here, Option.map_some, numberName, indexName_eq_toString]
  used p x here met := by
    rw [binderAt?_canonical, here, Option.map_some, if_pos (mem_namesBefore_iff.2 met), numberName,
      indexName_eq_toString]
  unused p x here unmet := by
    rw [binderAt?_canonical, here, Option.map_some, if_neg (mt mem_namesBefore_iff.1 unmet)]
    rfl

/-! ## Size -/

theorem size_rename (f : String → String) (t : Term) : (t.rename f).size = t.size := by
  induction t with
  | var x => rfl
  | abs x body ih => rw [rename, size, size, ih]
  | app left right ihLeft ihRight => rw [rename, size, size, ihLeft, ihRight]

/-- Terms with the same tree have the same size. -/
theorem size_eq_of_shape_eq {a b : Term} (same : a.shape = b.shape) : a.size = b.size := by
  rw [← size_rename (fun _ => "") a, ← size_rename (fun _ => "") b]
  exact congrArg size same

/-- The canonical form is what two passes without state make of a term.  The first lists the names
of the variables in order of first occurrence; the second replaces every name by its decimal index
in that list, but a binder by `_` if no variable of its name lies in its body or to its left.  The
tree and the size stay. -/
theorem canonical_eq_iff_indexedBy (t : Term) :
    FirstOccurrences t t.varNames.eraseDups ∧
      (∀ r, t.canonical = r ↔ IndexedBy t.varNames.eraseDups t r) ∧
      t.canonical.shape = t.shape ∧ t.canonical.size = t.size := by
  have indexed := indexedBy_canonical t
  refine ⟨firstOccurrences_eraseDups t, ?_, indexed.shape, size_eq_of_shape_eq indexed.shape⟩
  intro r
  constructor
  · rintro rfl
    exact indexed
  · intro other
    exact indexed.eq other

-- Names that look like indices, or like the sentinel, are names like any other.
example : canonical (abs "_" (app (var "1") (abs "0" (app (var "_") (var "1"))))) =
    abs "1" (app (var "0") (abs "_" (app (var "1") (var "0")))) := by decide

end Term

end Stepwise
