import Stepwise.Proofs.Draft.Reading

/-!
# Finished drafts

A draft is finished if it has no hole, which is to say that it is a term.  On finished drafts every
operation does what the operation on terms does (`Draft.subst_ofTerm`, `Draft.step_ofTerm` and the
lemmas beside them), so it never has to look at a hole.  What it returns is finished again, and so
is the application at which a step is stuck.  Whatever is read from a source is finished, and thus
no sequence of readings and operations ever meets a hole (`Draft.operations_stay_finished`).
-/

namespace Stepwise

namespace Draft

/-- No part is missing. -/
def Finished : Draft → Prop
  | hole => False
  | var _ => True
  | abs _ body => body.Finished
  | app left right => left.Finished ∧ right.Finished

/-- The operations on `d`, with `s` where they take a second draft, get by without looking at a
hole, and the drafts that they return or complain about are finished. -/
structure Operable (d s : Draft) : Prop where
  size : ∃ n, d.size = .ok n
  freeNames : ∃ names, d.freeNames = .ok names
  isFree : ∀ name, ∃ free, isFree name d = .ok free
  subst : ∀ name, ∃ r, d.subst name s = .ok r ∧ r.Finished
  step : ∀ strategy, (∃ r, d.step strategy = .ok r ∧ r.Finished) ∨
    ∃ left right, d.step strategy = .error (.stuck left right) ∧ (app left right).Finished
  canonical : ∃ r, d.canonical = .ok r ∧ r.Finished
  sameCanonical : ∃ same, sameCanonical d s = .ok same

/-- The drafts that can be had from those in `start` by reading sources and by operations.  The
application at which a step is stuck is one of them. -/
inductive Obtained (start : Draft → Prop) : Draft → Prop
  | given {d : Draft} : start d → Obtained start d
  | read {source : String} {d : Draft} :
    (Entry.source source).read = .ok d → Obtained start d
  | subst {d s r : Draft} {name : String} :
    Obtained start d → Obtained start s → d.subst name s = .ok r → Obtained start r
  | step {d r : Draft} {strategy : Strategy} :
    Obtained start d → d.step strategy = .ok r → Obtained start r
  | stuck {d left right : Draft} {strategy : Strategy} :
    Obtained start d → d.step strategy = .error (.stuck left right) →
    Obtained start (app left right)
  | canonical {d r : Draft} : Obtained start d → d.canonical = .ok r → Obtained start r

/-! ## Finished drafts are terms -/

theorem finished_ofTerm (t : Term) : (ofTerm t).Finished := by
  induction t with
  | var name => exact trivial
  | abs name body ih => exact ih
  | app left right ihLeft ihRight => exact ⟨ihLeft, ihRight⟩

theorem Finished.exists_ofTerm {d : Draft} (finished : d.Finished) : ∃ t, ofTerm t = d := by
  induction d with
  | hole => exact finished.elim
  | var name => exact ⟨.var name, rfl⟩
  | abs name body ih =>
    obtain ⟨t, rfl⟩ := ih finished
    exact ⟨.abs name t, rfl⟩
  | app left right ihLeft ihRight =>
    obtain ⟨l, rfl⟩ := ihLeft finished.1
    obtain ⟨r, rfl⟩ := ihRight finished.2
    exact ⟨.app l r, rfl⟩

/-! ## Operations on terms as drafts -/

theorem size_ofTerm (t : Term) : (ofTerm t).size = .ok t.size := by
  induction t with
  | var name => rfl
  | abs name body ih =>
    rw [ofTerm, size, ih]
    rfl
  | app left right ihLeft ihRight =>
    rw [ofTerm, size, ihLeft, ihRight]
    rfl

theorem freeNames_ofTerm (t : Term) : (ofTerm t).freeNames = .ok t.freeNames := by
  induction t with
  | var name => rfl
  | abs name body ih =>
    rw [ofTerm, freeNames, ih]
    rfl
  | app left right ihLeft ihRight =>
    rw [ofTerm, freeNames, ihLeft, ihRight]
    rfl

theorem isFree_ofTerm (name : String) (t : Term) :
    isFree name (ofTerm t) = .ok (Term.isFree name t) := by
  rw [isFree, freeNames_ofTerm]
  rfl

theorem subst_ofTerm (t replacement : Term) (name : String) :
    (ofTerm t).subst name (ofTerm replacement) = .ok (ofTerm (t.subst name replacement)) := by
  induction t with
  | var x =>
    rw [ofTerm, subst, Term.subst]
    split
    · rfl
    · rfl
  | abs x body ih =>
    rw [ofTerm, subst, Term.subst, isFree_ofTerm, ih]
    split
    · rfl
    · cases Term.isFree x replacement with
      | true => rfl
      | false => rfl
  | app left right ihLeft ihRight =>
    rw [ofTerm, subst, ihLeft, ihRight]
    rfl

/-- The outcome of a step on a term, told about drafts. -/
def ofOutcome : Except Stuck Term → Except Fault Draft
  | .ok t => .ok (ofTerm t)
  | .error s => .error (.stuck (ofTerm s.left) (ofTerm s.right))

theorem contract_ofTerm (left right : Term) :
    contract (ofTerm left) (ofTerm right) = ofOutcome (Term.contract left right) := by
  cases left with
  | var name => rfl
  | abs name body => exact subst_ofTerm body right name
  | app function argument => rfl

theorem step_ofTerm (strategy : Strategy) (t : Term) :
    (ofTerm t).step strategy = ofOutcome (strategy.step t) := by
  induction t with
  | var name => cases strategy <;> rfl
  | abs name body ih =>
    cases strategy with
    | callByName => rfl
    | normalOrder =>
      change (do return abs name (← (ofTerm body).normalOrder)) =
        ofOutcome ((Term.normalOrder body).map (Term.abs name))
      rw [show (ofTerm body).normalOrder = ofOutcome (Term.normalOrder body) from ih]
      cases Term.normalOrder body <;> rfl
  | app left right _ _ => cases strategy <;> exact contract_ofTerm left right

theorem ofTerm_injective {t u : Term} (same : ofTerm t = ofTerm u) : t = u := by
  induction t generalizing u with
  | var name =>
    cases u <;> cases same
    rfl
  | abs name body ih =>
    cases u with
    | abs other body' =>
      obtain ⟨rfl, sameBody⟩ := Draft.abs.inj same
      rw [ih sameBody]
    | _ => cases same
  | app left right ihLeft ihRight =>
    cases u with
    | app left' right' =>
      obtain ⟨sameLeft, sameRight⟩ := Draft.app.inj same
      rw [ihLeft sameLeft, ihRight sameRight]
    | _ => cases same

/-- The walk over a term as a draft is the walk over the term. -/
theorem canonicalFrom_ofTerm (seen : List String) (t : Term) :
    (ofTerm t).canonicalFrom seen =
      .ok (ofTerm (t.canonicalFrom seen).1, (t.canonicalFrom seen).2) := by
  induction t generalizing seen with
  | var name => rfl
  | abs name body ih =>
    rw [ofTerm, canonicalFrom, ih]
    rfl
  | app left right ihLeft ihRight =>
    rw [ofTerm, canonicalFrom, ihLeft]
    dsimp only [bind, Except.bind]
    rw [ihRight]
    rfl

/-- A draft with a hole has no canonical form, wherever the hole is. -/
theorem canonicalFrom_of_not_finished {d : Draft} (unfinished : ¬ d.Finished)
    (seen : List String) : d.canonicalFrom seen = .error .gap := by
  induction d generalizing seen with
  | hole => rfl
  | var name => exact (unfinished trivial).elim
  | abs name body ih =>
    rw [canonicalFrom, ih unfinished]
    rfl
  | app left right ihLeft ihRight =>
    rw [canonicalFrom]
    by_cases finished : left.Finished
    · obtain ⟨t, rfl⟩ := finished.exists_ofTerm
      rw [canonicalFrom_ofTerm]
      dsimp only [bind, Except.bind]
      rw [ihRight fun other => unfinished ⟨finished, other⟩]
    · rw [ihLeft finished]
      rfl

theorem canonical_ofTerm (t : Term) : (ofTerm t).canonical = .ok (ofTerm t.canonical) := by
  rw [canonical, canonicalFrom_ofTerm]
  rfl

theorem sameCanonical_ofTerm (a b : Term) :
    sameCanonical (ofTerm a) (ofTerm b) = .ok (a.sameCanonical b) := by
  have same : ofTerm a.canonical = ofTerm b.canonical ↔ a.canonical = b.canonical :=
    ⟨ofTerm_injective, congrArg ofTerm⟩
  rw [sameCanonical, canonical_ofTerm, canonical_ofTerm, Term.sameCanonical,
    ← decide_eq_decide.2 same]
  rfl

/-! ## Operations on finished drafts -/

/-- What is read from a source is finished. -/
theorem finished_or_malformed (source : String) :
    (∃ d, (Entry.source source).read = .ok d ∧ d.Finished) ∨
      ∃ e, (Entry.source source).read = .error (.malformed e) := by
  rw [read_source]
  cases Term.parse source with
  | ok t => exact .inl ⟨ofTerm t, rfl, finished_ofTerm t⟩
  | error e => exact .inr ⟨e, rfl⟩

theorem Finished.step {d : Draft} (finished : d.Finished) (strategy : Strategy) :
    (∃ r, d.step strategy = .ok r ∧ r.Finished) ∨
      ∃ left right, d.step strategy = .error (.stuck left right) ∧ (app left right).Finished := by
  obtain ⟨t, rfl⟩ := finished.exists_ofTerm
  rw [step_ofTerm]
  cases strategy.step t with
  | ok r => exact .inl ⟨ofTerm r, rfl, finished_ofTerm r⟩
  | error s => exact .inr ⟨_, _, rfl, finished_ofTerm s.left, finished_ofTerm s.right⟩

theorem Finished.operable {d s : Draft} (finished : d.Finished) (finishedSecond : s.Finished) :
    Operable d s := by
  have step := finished.step
  obtain ⟨t, rfl⟩ := finished.exists_ofTerm
  obtain ⟨u, rfl⟩ := finishedSecond.exists_ofTerm
  exact {
    size := ⟨_, size_ofTerm t⟩
    freeNames := ⟨_, freeNames_ofTerm t⟩
    isFree := fun name => ⟨_, isFree_ofTerm name t⟩
    subst := fun name => ⟨_, subst_ofTerm t u name, finished_ofTerm _⟩
    step := step
    canonical := ⟨_, canonical_ofTerm t, finished_ofTerm _⟩
    sameCanonical := ⟨_, sameCanonical_ofTerm t u⟩ }

/-- Readings and operations lead from finished drafts to finished drafts only. -/
theorem Obtained.finished {start : Draft → Prop} {d : Draft}
    (startFinished : ∀ d, start d → d.Finished) (obtained : Obtained start d) : d.Finished := by
  induction obtained with
  | given member => exact startFinished _ member
  | @read source d found =>
    rcases finished_or_malformed source with ⟨_, same, finished⟩ | ⟨_, same⟩
    · cases same.symm.trans found
      exact finished
    · cases same.symm.trans found
  | @subst d s r name _ _ found ih ihSecond =>
    obtain ⟨_, same, finished⟩ := (ih.operable ihSecond).subst name
    cases same.symm.trans found
    exact finished
  | @step d r strategy _ found ih =>
    rcases ih.step strategy with ⟨_, same, finished⟩ | ⟨_, _, same, -⟩
    · cases same.symm.trans found
      exact finished
    · cases same.symm.trans found
  | @stuck d left right strategy _ found ih =>
    rcases ih.step strategy with ⟨_, same, -⟩ | ⟨_, _, same, finished⟩
    · cases same.symm.trans found
    · cases same.symm.trans found
      exact finished
  | canonical _ found ih =>
    obtain ⟨_, same, finished⟩ := (ih.operable ih).canonical
    cases same.symm.trans found
    exact finished

/-- No operation on finished drafts meets a hole.  Reading a source gives a finished draft or a
complaint about the source.  On finished drafts every operation succeeds, but for a step that is
stuck, and all drafts that come back, the stuck application too, are finished.  So this holds of
all drafts that any sequence of readings and operations leads to from finished drafts. -/
theorem operations_stay_finished :
    (∀ source, (∃ d, (Entry.source source).read = .ok d ∧ d.Finished) ∨
      ∃ e, (Entry.source source).read = .error (.malformed e)) ∧
    (∀ d s : Draft, d.Finished → s.Finished → Operable d s) ∧
    ∀ start : Draft → Prop, (∀ d, start d → d.Finished) →
      ∀ d s, Obtained start d → Obtained start s → d.Finished ∧ Operable d s := by
  refine ⟨finished_or_malformed, fun d s => Finished.operable, ?_⟩
  intro start startFinished d s obtained obtainedSecond
  have finished := obtained.finished startFinished
  exact ⟨finished, finished.operable (obtainedSecond.finished startFinished)⟩

/-- From `(λx.(x x)) y` one step leads to `(y y)`, which is stuck.  The stuck application is
finished, and so is its substitution for `y` in itself. -/
theorem operations_stay_finished_at_stuck :
    Finished (app (var "y") (var "y")) ∧
      ∃ r, (app (var "y") (var "y")).subst "y" (app (var "y") (var "y")) = .ok r ∧ r.Finished := by
  have startFinished : ∀ d, d = app (abs "x" (app (var "x") (var "x"))) (var "y") →
      d.Finished := by
    rintro d rfl
    exact ⟨⟨trivial, trivial⟩, trivial⟩
  have stepped : Obtained (· = app (abs "x" (app (var "x") (var "x"))) (var "y"))
      (app (var "y") (var "y")) := @Obtained.step _ _ _ .callByName (.given rfl) rfl
  have stuck : Obtained (· = app (abs "x" (app (var "x") (var "x"))) (var "y"))
      (app (var "y") (var "y")) := @Obtained.stuck _ _ _ _ .callByName stepped rfl
  obtain ⟨-, -, sequences⟩ := operations_stay_finished
  obtain ⟨finished, operable⟩ := sequences _ startFinished _ _ stuck stepped
  exact ⟨finished, operable.subst "y"⟩

end Draft

end Stepwise
