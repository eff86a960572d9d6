import Mathlib.Data.List.Induction
import Mathlib.Data.List.Nodup
import Mathlib.Data.Set.Function
import Stepwise.Proofs.Term.Position
import Stepwise.Term.Canonical

/-!
# The numbering behind canonical forms

Canonical names are given out during one traversal, by a list of the names met so far.  This list
is at any time the list of distinct names of the variables passed, in order of first occurrence, so
that no number depends on what comes later: `Term.canonicalFrom_eq` takes the traversal apart into
the names of the term and a renaming without state, `Term.numbered`.

From there on canonical forms are read by positions.  A variable becomes the number of its name
(`Term.varAt?_canonical`), and so does a binder if a variable of its name lies in its body or to
its left; any other binder becomes `_`, which is no number (`Term.binderAt?_canonical`).
-/

namespace Stepwise

theorem indexName_eq_toString (n : Nat) : indexName n = toString n :=
  Nat.toString_eq_ofList_toDigits.symm

theorem indexName_injective {m n : Nat} (same : indexName m = indexName n) : m = n := by
  have digits : Nat.toDigits 10 m = Nat.toDigits 10 n := by
    rw [← String.toList_ofList (l := Nat.toDigits 10 m), ← indexName, same, indexName,
      String.toList_ofList]
  rw [← Nat.ofDigitChars_ten_toDigits (n := m), digits, Nat.ofDigitChars_ten_toDigits]

theorem indexName_ne_unusedName (n : Nat) : indexName n ≠ unusedName := by
  intro same
  have spelt : '_' ∈ (indexName n).toList := by
    rw [same]
    decide
  rw [indexName, String.toList_ofList] at spelt
  exact Nat.underscore_not_in_toDigits spelt

namespace Term

/-- The number of `x` among the distinct `names`, in order of first occurrence. -/
def numberName (names : List String) (x : String) : String := indexName (names.eraseDups.idxOf x)

/-- `t` with its variables renamed by `number`, and its binders too where their names are among
`before` or the variables in the body of the binder or to its left. -/
def numbered (number : String → String) (before : List String) : Term → Term
  | var x => var (number x)
  | abs x body =>
    abs (if x ∈ before ++ body.varNames then number x else unusedName)
      (body.numbered number before)
  | app left right =>
    app (left.numbered number before) (right.numbered number (before ++ left.varNames))

/-! ## First occurrences -/

/-- Noting a name keeps the list of distinct names up to date. -/
theorem noteName_eraseDups (names : List String) (x : String) :
    noteName names.eraseDups x = (names ++ [x]).eraseDups := by
  rw [noteName, List.eraseDups_append, List.cons_removeAll, List.nil_removeAll]
  by_cases known : x ∈ names
  · rw [if_pos (by simpa using known), if_neg (by simpa using known), List.eraseDups_nil,
      List.append_nil]
  · rw [if_neg (by simpa using known), if_pos (by simpa using known), List.eraseDups_cons]
    rfl

theorem nodup_eraseDups (names : List String) : names.eraseDups.Nodup := by
  induction names using List.reverseRecOn with
  | nil => exact List.nodup_nil
  | append_singleton names x ih =>
    rw [← noteName_eraseDups, noteName]
    split
    · exact ih
    · next unknown =>
      rw [List.nodup_append]
      refine ⟨ih, List.nodup_singleton x, ?_⟩
      intro y known z here same
      rw [List.mem_singleton] at here
      subst here same
      exact unknown (by simpa using known)

/-- Renaming without clashes keeps the order of first occurrences. -/
theorem eraseDups_map {names : List String} {f : String → String}
    (injective : Set.InjOn f {x | x ∈ names}) :
    (names.map f).eraseDups = names.eraseDups.map f := by
  induction names using List.reverseRecOn with
  | nil => rfl
  | append_singleton names x ih =>
    have injectiveBefore : Set.InjOn f {y | y ∈ names} :=
      injective.mono fun y known => List.mem_append_left _ known
    have known : f x ∈ names.eraseDups.map f ↔ x ∈ names.eraseDups := by
      rw [List.mem_map]
      constructor
      · intro found
        obtain ⟨y, member, same⟩ := found
        have earlier : y ∈ names := List.mem_eraseDups.1 member
        rwa [← injective (List.mem_append_left _ earlier) (by simp) same]
      · intro member
        exact ⟨x, member, rfl⟩
    rw [List.map_append, List.map_singleton, ← noteName_eraseDups, ← noteName_eraseDups,
      ih injectiveBefore, noteName, noteName]
    simp only [List.contains_iff_mem, known, apply_ite (List.map f), List.map_append,
      List.map_singleton]

/-! ## Numbers of names -/

theorem numberName_injOn (names : List String) :
    Set.InjOn (numberName names) {x | x ∈ names} := by
  intro x known y _ same
  exact (List.idxOf_inj (List.mem_eraseDups.2 known)).1 (indexName_injective same)

/-- A number is given once and for all. -/
theorem numberName_of_isPrefix {names more : List String} (first : names <+: more) {x : String}
    (known : x ∈ names) : numberName more x = numberName names x := by
  obtain ⟨later, rfl⟩ := first
  rw [numberName, numberName, List.eraseDups_append,
    List.idxOf_append_of_mem (List.mem_eraseDups.2 known)]

/-- Renaming without clashes keeps the numbers. -/
theorem numberName_map {names : List String} {f : String → String}
    (injective : Set.InjOn f {x | x ∈ names}) {x : String} (known : x ∈ names) :
    numberName (names.map f) (f x) = numberName names x := by
  have within : names.eraseDups.idxOf x < names.eraseDups.length :=
    List.idxOf_lt_length_of_mem (List.mem_eraseDups.2 known)
  have distinct : (names.eraseDups.map f).Nodup := by
    rw [← eraseDups_map injective]
    exact nodup_eraseDups _
  have place := distinct.idxOf_getElem (names.eraseDups.idxOf x) (by simpa using within)
  rw [List.getElem_map, List.getElem_idxOf within] at place
  rw [numberName, eraseDups_map injective, place, numberName]

/-- Exactly the names `0`, `1`, … in this order are their own numbers. -/
theorem numberName_eq_self_iff {names : List String} :
    (∀ x ∈ names, numberName names x = x) ↔
      ∃ n, names.eraseDups = (List.range n).map indexName := by
  constructor
  · intro own
    refine ⟨names.eraseDups.length, List.ext_getElem (by simp) ?_⟩
    intro i within _
    have place := (nodup_eraseDups names).idxOf_getElem i within
    rw [List.getElem_map, List.getElem_range, ← own _ (List.mem_eraseDups.1 (List.getElem_mem _)),
      numberName, place]
  · intro counted x known
    obtain ⟨n, counted⟩ := counted
    rw [← List.mem_eraseDups, counted] at known
    obtain ⟨i, within, rfl⟩ := List.mem_map.1 known
    have distinct : ((List.range n).map indexName).Nodup :=
      counted ▸ nodup_eraseDups names
    have place := distinct.idxOf_getElem i (by simpa using within)
    rw [List.getElem_map, List.getElem_range] at place
    rw [numberName, counted, place]

/-! ## The traversal without state -/

theorem binderName_eraseDups (names : List String) (x : String) :
    binderName names.eraseDups x = if x ∈ names then numberName names x else unusedName := by
  rw [numberName, List.idxOf_eq_getD_idxOf?, binderName]
  cases found : names.eraseDups.idxOf? x with
  | none =>
    have unknown : x ∉ names := by rwa [List.idxOf?_eq_none_iff, List.mem_eraseDups] at found
    rw [if_neg unknown]
  | some index =>
    have known : x ∈ names := List.mem_eraseDups.1 (List.isSome_idxOf?.1 (by rw [found]; rfl))
    rw [if_pos known]
    rfl

/-- The traversal renames by the numbers that all names have in the end, and has met the names to
the left and in the term itself. -/
theorem canonicalFrom_eq {t : Term} {before names : List String}
    (met : before ++ t.varNames <+: names) :
    canonicalFrom before.eraseDups t =
      (t.numbered (numberName names) before, (before ++ t.varNames).eraseDups) := by
  -- `before` grows along the traversal, while `names` stays what it is at the end.
  induction t generalizing before with
  | var x =>
    rw [canonicalFrom, noteName_eraseDups]
    change (var (numberName (before ++ [x]) x), _) = (var (numberName names x), _)
    rw [numberName_of_isPrefix met (by simp [varNames])]
    rfl
  | abs x body ih =>
    have binder : binderName (before ++ body.varNames).eraseDups x =
        if x ∈ before ++ body.varNames then numberName names x else unusedName := by
      rw [binderName_eraseDups]
      split
      · next known => exact (numberName_of_isPrefix met known).symm
      · rfl
    rw [canonicalFrom, ih met]
    exact congrArg (fun name => (abs name _, _)) binder
  | app left right ihLeft ihRight =>
    rw [varNames, ← List.append_assoc] at met
    rw [canonicalFrom, ihLeft ((List.prefix_append _ _).trans met)]
    dsimp only
    rw [ihRight met, List.append_assoc]
    rfl

theorem canonical_eq_numbered (t : Term) :
    t.canonical = t.numbered (numberName t.varNames) [] := by
  have whole := @canonicalFrom_eq t [] t.varNames (List.prefix_refl _)
  exact congrArg Prod.fst whole

/-! ## Canonical forms by positions -/

theorem varAt?_numbered (number : String → String) (before : List String) (t : Term)
    (p : Position) : (t.numbered number before).varAt? p = (t.varAt? p).map number := by
  induction t generalizing before p with
  | var x => cases p <;> rfl
  | abs x body ih => rcases p with _ | ⟨_ | _ | _, p⟩ <;> simp [numbered, varAt?, ih]
  | app left right ihLeft ihRight =>
    rcases p with _ | ⟨_ | _ | _, p⟩ <;> simp [numbered, varAt?, ihLeft, ihRight]

theorem binderAt?_numbered (number : String → String) (before : List String) (t : Term)
    (p : Position) :
    (t.numbered number before).binderAt? p = (t.binderAt? p).map fun x =>
      if x ∈ before ++ t.namesBefore p then number x else unusedName := by
  induction t generalizing before p with
  | var x => cases p <;> rfl
  | abs x body ih =>
    rcases p with _ | ⟨_ | _ | _, p⟩ <;> simp [numbered, binderAt?, namesBefore, ih]
  | app left right ihLeft ihRight =>
    rcases p with _ | ⟨_ | _ | _, p⟩ <;> simp [numbered, binderAt?, namesBefore, ihLeft, ihRight]

theorem varAt?_canonical (t : Term) (p : Position) :
    t.canonical.varAt? p = (t.varAt? p).map (numberName t.varNames) := by
  rw [canonical_eq_numbered, varAt?_numbered]

theorem binderAt?_canonical (t : Term) (p : Position) :
    t.canonical.binderAt? p = (t.binderAt? p).map fun x =>
      if x ∈ t.namesBefore p then numberName t.varNames x else unusedName := by
  rw [canonical_eq_numbered, binderAt?_numbered, List.nil_append]

end Term

end Stepwise
