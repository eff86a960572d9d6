import Stepwise.Proofs.Term.Contraction

/-!
# Runs

A run makes one step after the other and ends at the first that fails.  Two kinds of step that
agree on related states have runs of any length that agree (`runSteps_agree`): what has to be found
is the relation, and one step has to keep it.  Steps that do the same on the states of one run have
the same run (`runSteps_congr`), and a preorder that every step respects orders the states of a run
(`runSteps_related`).

A closed argument has no free name that a binder could capture.  On closed terms the run of steps
at the root therefore is the run in nameless form, and stays among closed terms
(`Term.callByName_run_agrees`).
-/

namespace Stepwise

section Simulation

variable {α β ε δ : Type}

/-- `n` steps from `a`.  A failure comes with the number of steps that were made before it. -/
def runSteps (step : α → Except ε α) : (n : Nat) → (a : α) → Except (Nat × ε) α
  | 0, a => .ok a
  | n + 1, a => do
    let b ← runSteps step n a
    (step b).mapError fun e => (n, e)

/-- Both succeed with related values, or both fail with related errors. -/
def Agree (values : α → β → Prop) (errors : ε → δ → Prop) : Except ε α → Except δ β → Prop
  | .ok a, .ok b => values a b
  | .error e, .error d => errors e d
  | _, _ => False

theorem Agree.bind {values : α → β → Prop} {errors : ε → δ → Prop} {x : Except ε α}
    {y : Except δ β} {left : α → Except ε α} {right : β → Except δ β}
    (agree : Agree values errors x y)
    (next : ∀ a b, values a b → Agree values errors (left a) (right b)) :
    Agree values errors (x >>= left) (y >>= right) := by
  cases x with
  | error e =>
    cases y with
    | error d => exact agree
    | ok b => exact agree.elim
  | ok a =>
    cases y with
    | error d => exact agree.elim
    | ok b => exact next a b agree

/-- Numbering the failures of two steps alike keeps their agreement. -/
theorem Agree.mapError {values : α → β → Prop} {x : Except ε α} {y : Except δ β}
    (errors : Nat → ε → δ → Prop) (n : Nat) (agree : Agree values (errors n) x y) :
    Agree values (fun e d => e.1 = d.1 ∧ errors e.1 e.2 d.2) (x.mapError fun e => (n, e))
      (y.mapError fun d => (n, d)) := by
  cases x with
  | error e =>
    cases y with
    | error d => exact ⟨rfl, agree⟩
    | ok b => exact agree.elim
  | ok a =>
    cases y with
    | error d => exact agree.elim
    | ok b => exact agree

/-- Steps that agree on related states have runs that agree, and that fail at the same step. -/
theorem runSteps_agree {values : α → β → Prop} {errors : ε → δ → Prop}
    {left : α → Except ε α} {right : β → Except δ β}
    (stepAgree : ∀ a b, values a b → Agree values errors (left a) (right b))
    {a : α} {b : β} (start : values a b) (n : Nat) :
    Agree values (fun e d => e.1 = d.1 ∧ errors e.2 d.2) (runSteps left n a)
      (runSteps right n b) := by
  induction n with
  | zero => exact start
  | succ n ih =>
    refine ih.bind ?_
    intro a b related
    exact Agree.mapError (fun _ => errors) n (stepAgree a b related)

/-- Steps that do the same on every state that one of the runs leaves have the same run. -/
theorem runSteps_congr {left right : α → Except ε α} {a : α} {n : Nat}
    (same : ∀ k < n, ∀ b, runSteps left k a = .ok b → left b = right b) :
    runSteps left n a = runSteps right n a := by
  induction n with
  | zero => rfl
  | succ n ih =>
    have before : runSteps left n a = runSteps right n a :=
      ih fun k le b reached => same k (Nat.lt_succ_of_lt le) b reached
    rw [runSteps, runSteps, ← before]
    cases reached : runSteps left n a with
    | error e => rfl
    | ok b =>
      change (left b).mapError _ = (right b).mapError _
      rw [same n n.lt_succ_self b reached]

theorem exists_of_runSteps_succ {step : α → Except ε α} {a c : α} {n : Nat}
    (ended : runSteps step (n + 1) a = .ok c) :
    ∃ b, runSteps step n a = .ok b ∧ step b = .ok c := by
  rw [runSteps] at ended
  cases reached : runSteps step n a with
  | error e =>
    rw [reached] at ended
    cases ended
  | ok b =>
    rw [reached] at ended
    change (step b).mapError _ = .ok c at ended
    cases stepped : step b with
    | error e =>
      rw [stepped] at ended
      cases ended
    | ok d =>
      rw [stepped] at ended
      cases ended
      exact ⟨b, rfl, stepped⟩

/-- What one step relates, reflexively and transitively, is related along the whole run. -/
theorem runSteps_related {step : α → Except ε α} {related : α → α → Prop}
    (stepRelated : ∀ a b, step a = .ok b → related a b) (refl : ∀ a, related a a)
    (trans : ∀ {a b c}, related a b → related b c → related a c) {a b c : α} {m n : Nat}
    (le : m ≤ n) (early : runSteps step m a = .ok b) (late : runSteps step n a = .ok c) :
    related b c := by
  induction le generalizing c with
  | refl =>
    rw [early] at late
    cases late
    exact refl b
  | step _ ih =>
    obtain ⟨d, reached, stepped⟩ := exists_of_runSteps_succ late
    exact trans (ih reached) (stepRelated d c stepped)

end Simulation

/-! ## Closed terms -/

/-- One step at the root of a nameless term.  Variables and abstractions are left as they are, and
an application of anything but an abstraction is stuck. -/
def Nameless.rootStep : Nameless → Except Nameless Nameless
  | app (abs body) argument => .ok (body.subst 0 argument)
  | app left right => .error (app left right)
  | t => .ok t

namespace Term

/-- A closed replacement takes the variable away and brings no free name in. -/
theorem freeNames_subst_of_closed {t replacement : Term} {name : String}
    (closed : replacement.freeNames = []) :
    (t.subst name replacement).freeNames = t.freeNames.filter (· ≠ name) := by
  induction t with
  | var x =>
    by_cases same : x = name
    · rw [subst, if_pos same, closed]
      simp [freeNames, same]
    · rw [subst, if_neg same]
      simp [freeNames, same]
  | abs x body ih =>
    have harmless : isFree x replacement = false := by simp [isFree, closed]
    by_cases same : x = name
    · rw [subst, if_pos same, freeNames, List.filter_filter]
      simp [same]
    · rw [subst, if_neg same, if_neg (by simp [harmless]), freeNames, freeNames, ih,
        List.filter_filter, List.filter_filter]
      simp only [Bool.and_comm]
  | app left right ihLeft ihRight =>
    rw [subst, freeNames, freeNames, ihLeft, ihRight, List.filter_append]

/-- A step at the root of a closed term is the step of its nameless form, and stays closed. -/
theorem callByName_agrees {t : Term} (closed : t.freeNames = []) :
    Agree (fun r d => r.freeNames = [] ∧ r.nameless [] = d) (fun s d => s.term.nameless [] = d)
      t.callByName (t.nameless []).rootStep := by
  cases t with
  | var x => cases closed
  | abs x body => exact ⟨closed, rfl⟩
  | app left right =>
    obtain ⟨closedLeft, closedRight⟩ := List.append_eq_nil_iff.1 closed
    cases left with
    | var x => rfl
    | app function argument => rfl
    | abs x body =>
      have closedResult : (body.subst x right).freeNames = [] := by
        rw [freeNames_subst_of_closed closedRight]
        exact closedLeft
      have agree : (body.subst x right).nameless [] =
          (body.nameless [x]).subst 0 (right.nameless []) :=
        (@nameless_subst_iff body right x [] [] nofun nofun).2 (not_declines_of_closed closedRight)
      exact ⟨closedResult, agree⟩

/-- On closed terms declining never shows.  `n` steps at the root of a closed term fail at the same
step as `n` textbook steps on its nameless form, with the same application, or end in a closed term
whose nameless form is where the textbook steps end. -/
theorem callByName_run_agrees {t : Term} (closed : t.freeNames = []) (n : Nat) :
    Agree (fun r d => r.freeNames = [] ∧ r.nameless [] = d)
      (fun s d => s.1 = d.1 ∧ s.2.term.nameless [] = d.2)
      (runSteps callByName n t) (runSteps Nameless.rootStep n (t.nameless [])) := by
  have stepAgree : ∀ (r : Term) (d : Nameless), r.freeNames = [] ∧ r.nameless [] = d →
      Agree (fun r d => r.freeNames = [] ∧ r.nameless [] = d) (fun s d => s.term.nameless [] = d)
        r.callByName d.rootStep := by
    intro r d related
    obtain ⟨closedHere, rfl⟩ := related
    exact callByName_agrees closedHere
  exact runSteps_agree stepAgree ⟨closed, rfl⟩ n

/-- `(λx.((x x) x)) (λx.x)` makes one step and is stuck at the next, in both forms. -/
theorem callByName_run_agrees_until_stuck :
    runSteps callByName 2
        (app (abs "x" (app (app (var "x") (var "x")) (var "x"))) (abs "x" (var "x"))) =
      .error (1, ⟨app (abs "x" (var "x")) (abs "x" (var "x")), abs "x" (var "x")⟩) ∧
    Agree (fun r d => r.freeNames = [] ∧ r.nameless [] = d)
      (fun s d => s.1 = d.1 ∧ s.2.term.nameless [] = d.2)
      (runSteps callByName 2
        (app (abs "x" (app (app (var "x") (var "x")) (var "x"))) (abs "x" (var "x"))))
      (runSteps Nameless.rootStep 2
        (.app (.abs (.app (.app (.bound 0) (.bound 0)) (.bound 0))) (.abs (.bound 0)))) := by
  have closed : (app (abs "x" (app (app (var "x") (var "x")) (var "x")))
      (abs "x" (var "x"))).freeNames = [] := by decide
  exact ⟨rfl, callByName_run_agrees closed 2⟩

end Term

end Stepwise
