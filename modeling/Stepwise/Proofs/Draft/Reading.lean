import Stepwise.Draft.Session

/-!
# Readers of drafts

A reader of drafts gives back what the reader of terms gives: the term as a draft with the tokens
after it, or the missing draft beside the same stop (`Draft.Reader.term_eq` and the lemmas beside
it).  So no reader ever puts a missing part into what it builds, and `Draft.parse` gives a draft
without holes, or the missing one beside a complaint (`Draft.parse_eq`).
-/

namespace Stepwise

namespace Draft

/-- Bindings with their values as drafts. -/
def ofBindings (bound : List (String × Term)) : List (String × Draft) :=
  bound.map fun b => (b.1, ofTerm b.2)

theorem letDraft_ofBindings (bound : List (String × Term)) (body : Term) :
    letDraft (ofBindings bound) (ofTerm body) = ofTerm (Stepwise.Reader.letTerm bound body) := by
  induction bound with
  | nil => rfl
  | cons b bound ih => exact congrArg (fun d => app (abs b.1 d) (ofTerm b.2)) ih

namespace Reader

open Stepwise.Reader (Stop Reading)

/-! ## Outcomes told about drafts -/

/-- What a reader of drafts gives back where a reader of terms has the outcome `r`. -/
def exit {P : List Token → Prop} (r : Except Stop { p : Term × List Token // P p.2 }) : Exit P :=
  match r with
  | .error stop => ⟨hole, .error stop⟩
  | .ok ⟨(t, rest), h⟩ => ⟨ofTerm t, .ok ⟨rest, h⟩⟩

/-- The outcome of reading bindings, with drafts for their values. -/
def bound {ts : List Token} (r : Reading (List (String × Term)) ts) :
    Reading (List (String × Draft)) ts :=
  r.map fun ⟨(values, rest), h⟩ => ⟨(ofBindings values, rest), h⟩

section

variable {α : Type} {P Q : List Token → Prop} {ts us : List Token} {e : Exit P}
  {r : Except Stop { p : Term × List Token // P p.2 }}

/-- What comes after a part that is no draft. -/
theorem onward_eq {r : Except Stop α} {next : α → Exit Q}
    {after : α → Except Stop { p : Term × List Token // Q p.2 }}
    (agree : ∀ a, next a = exit (after a)) : onward r next = exit (r >>= after) := by
  cases r with
  | error stop => rfl
  | ok a => exact agree a

/-- What comes after a draft has a finished draft to take. -/
theorem onward_exit (same : e = exit r) {next : { rest : List Token // P rest } → Exit Q}
    {after : { p : Term × List Token // P p.2 } → Except Stop { p : Term × List Token // Q p.2 }}
    (agree : ∀ t rest h, e.draft = ofTerm t → next ⟨rest, h⟩ = exit (after ⟨(t, rest), h⟩)) :
    onward e.beside next = exit (r >>= after) := by
  subst same
  cases r with
  | error stop => rfl
  | ok p => exact agree p.1.1 p.1.2 p.2 rfl

theorem onward_bound {b : Reading (List (String × Draft)) ts}
    {r : Reading (List (String × Term)) ts} (same : b = bound r)
    {next : { p : List (String × Draft) × List Token // p.2.length < ts.length } → Exit Q}
    {after : { p : List (String × Term) × List Token // p.2.length < ts.length } →
      Except Stop { p : Term × List Token // Q p.2 }}
    (agree : ∀ values rest h,
      next ⟨(ofBindings values, rest), h⟩ = exit (after ⟨(values, rest), h⟩)) :
    onward b next = exit (r >>= after) := by
  subst same
  cases r with
  | error stop => rfl
  | ok p => exact agree p.1.1 p.1.2 p.2

theorem bind_eq {r : Except Stop α} {next : α → Reading (List (String × Draft)) ts}
    {after : α → Reading (List (String × Term)) ts} (agree : ∀ a, next a = bound (after a)) :
    r >>= next = bound (r >>= after) := by
  cases r with
  | error stop => rfl
  | ok a => exact agree a

theorem bind_bound {b : Reading (List (String × Draft)) us}
    {r : Reading (List (String × Term)) us} (same : b = bound r)
    {next : { p : List (String × Draft) × List Token // p.2.length < us.length } →
      Reading (List (String × Draft)) ts}
    {after : { p : List (String × Term) × List Token // p.2.length < us.length } →
      Reading (List (String × Term)) ts}
    (agree : ∀ values rest h,
      next ⟨(ofBindings values, rest), h⟩ = bound (after ⟨(values, rest), h⟩)) :
    b >>= next = bound (r >>= after) := by
  subst same
  cases r with
  | error stop => rfl
  | ok p => exact agree p.1.1 p.1.2 p.2

theorem bind_exit (same : e = exit r)
    {next : { rest : List Token // P rest } → Reading (List (String × Draft)) ts}
    {after : { p : Term × List Token // P p.2 } → Reading (List (String × Term)) ts}
    (agree : ∀ t rest h, e.draft = ofTerm t → next ⟨rest, h⟩ = bound (after ⟨(t, rest), h⟩)) :
    e.beside >>= next = bound (r >>= after) := by
  subst same
  cases r with
  | error stop => rfl
  | ok p => exact agree p.1.1 p.1.2 p.2 rfl

end

/-! ## Agreement with the readers of terms -/

-- The induction is along the calls; each ends with fewer tokens or, for the same tokens, in a
-- reader of smaller parts.
mutual

theorem term_eq (ts : List Token) : term ts = exit (Stepwise.Reader.term ts) := by
  by_cases isLet : ∃ rest, ts = .letWord :: rest
  · obtain ⟨rest, rfl⟩ := isLet
    rw [term, Stepwise.Reader.term]
    refine onward_bound (bindings_eq rest) ?_
    intro values rest₁ h₁
    refine onward_exit (term_eq rest₁) ?_
    intro body rest₂ h₂ isBody
    dsimp only
    rw [isBody, letDraft_ofBindings]
    rfl
  · rw [term.eq_2 ts (not_exists.1 isLet), Stepwise.Reader.term.eq_2 ts (not_exists.1 isLet)]
    refine onward_exit (unit_eq ts) ?_
    intro first rest₁ h₁ isFirst
    dsimp only
    rw [isFirst]
    refine onward_exit (arguments_eq first rest₁) ?_
    intro whole rest₂ h₂ isWhole
    dsimp only
    rw [isWhole]
    rfl
termination_by 3 * ts.length + 2
decreasing_by all_goals grind

theorem arguments_eq (head : Term) (ts : List Token) :
    arguments (ofTerm head) ts = exit (Stepwise.Reader.arguments head ts) := by
  cases ts with
  | nil =>
    rw [arguments, Stepwise.Reader.arguments]
    rfl
  | cons t rest =>
    rw [arguments, Stepwise.Reader.arguments]
    split
    · refine onward_exit (unit_eq (t :: rest)) ?_
      intro argument rest₁ h₁ isArgument
      dsimp only
      rw [isArgument]
      refine onward_exit (arguments_eq (.app head argument) rest₁) ?_
      intro whole rest₂ h₂ isWhole
      dsimp only
      exact congrArg (Exit.mk · _) isWhole
    · rfl
termination_by 3 * ts.length + 1
decreasing_by all_goals grind

theorem unit_eq (ts : List Token) : unit ts = exit (Stepwise.Reader.unit ts) := by
  rw [unit.eq_def]
  split
  · rw [Stepwise.Reader.unit]
    rfl
  · next rest =>
    rw [Stepwise.Reader.unit]
    refine onward_exit (term_eq rest) ?_
    intro inner rest₁ h₁ isInner
    refine onward_eq fun closed => ?_
    exact congrArg (Exit.mk · _) isInner
  · next rest =>
    rw [Stepwise.Reader.unit]
    refine onward_eq fun named => ?_
    refine onward_eq fun dotted => ?_
    refine onward_exit (unit_eq dotted.1) ?_
    intro body rest₃ h₃ isBody
    exact congrArg (fun d => Exit.mk (abs named.1.1 d) _) isBody
  · next noIdent noParen noLambda =>
    rw [Stepwise.Reader.unit.eq_4 ts noIdent noParen noLambda]
    rfl
termination_by 3 * ts.length
decreasing_by all_goals grind

theorem bindings_eq (ts : List Token) :
    bindings ts = bound (Stepwise.Reader.bindings ts) := by
  rw [bindings, Stepwise.Reader.bindings]
  refine bind_eq fun named => ?_
  refine bind_eq fun equalled => ?_
  refine bind_exit (term_eq equalled.1) ?_
  intro value rest₃ h₃ isValue
  refine bind_eq fun ended => ?_
  obtain ⟨rest₄, h₄⟩ := ended
  dsimp only
  rw [isValue]
  have further := bindings_eq rest₄
  cases rest₄ with
  | nil => exact bind_bound further fun more rest₅ h₅ => rfl
  | cons t rest₅ =>
    cases t with
    | inWord => rfl
    | _ => exact bind_bound further fun more rest₆ h₆ => rfl
termination_by 3 * ts.length
decreasing_by all_goals grind

end

theorem wholeTerm_eq (ts : List Token) : wholeTerm ts =
    match Stepwise.Reader.wholeTerm ts with
    | .ok t => (ofTerm t, none)
    | .error stop => (hole, some stop) := by
  rw [wholeTerm, Stepwise.Reader.wholeTerm, term_eq]
  cases Stepwise.Reader.term ts with
  | error stop => rfl
  | ok read =>
    obtain ⟨⟨t, rest⟩, h⟩ := read
    cases rest <;> rfl

end Reader

/-- A source is read as a draft without holes, and otherwise the missing draft is given back beside
the complaint that reading the source as a term ends with. -/
theorem parse_eq (source : String) : parse source =
    match Term.parse source with
    | .ok t => (ofTerm t, none)
    | .error e => (hole, some e) := by
  rw [parse, Reader.wholeTerm_eq, Term.parse, Term.parseChars, Cursor.read]
  cases Stepwise.Reader.wholeTerm (Cursor.ofChars source.toList).tokens <;> rfl

theorem read_source (source : String) : (Entry.source source).read =
    match Term.parse source with
    | .ok t => .ok (ofTerm t)
    | .error e => .error (.malformed e) := by
  rw [Entry.read, parse_eq]
  cases Term.parse source <;> rfl

end Draft

end Stepwise
