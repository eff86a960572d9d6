import Stepwise.Proofs.Grammar.Cursor
import Stepwise.Proofs.Grammar.Descent

/-!
# Reading halts and gets on

Recursive descent from a scanner agrees with the readers of tokens, and these take a token whenever
they succeed.  So every function comes to an end from every scanner; after a success the scanner has
moved on, and after a failure it stands where the refusal says, which is not before the place where
it stood (`Descent.halts_with_progress`).  Reading a whole source in this way is what reading from a
cursor is (`Descent.endsWith_wholeTerm`).

An answer is the same at every depth that is great enough, because the tokens that a reading leaves
tell the scanner that it leaves (`Scanner.iterate_eq_of_tokens_eq`).
-/

namespace Stepwise

open Reader

namespace Scanner

variable (s : Scanner)

/-- At the end of the source a scanner stays where it is. -/
theorem next_of_current_eq_none {s : Scanner} (atEnd : s.current = none) : s.next = s := by
  obtain ⟨current, taken, rest, ends, ended⟩ := s
  subst atEnd
  obtain rfl := ended rfl
  exact cut_of_next?_eq_none rfl

theorem current_eq_none_iff {s : Scanner} : s.current = none ↔ s.tokens = [] := by
  rw [← List.head?_eq_none_iff, ← token_eq_head?, token, Option.map_eq_none_iff]

/-- Further calls that take no token change nothing. -/
theorem iterate_eq_self_of_tokens_eq {k : Nat} (same : (next^[k] s).tokens = s.tokens) :
    next^[k] s = s := by
  have count := congrArg List.length same
  rw [tokens_iterate, List.length_drop] at count
  cases k with
  | zero => rfl
  | succ k =>
    have nothing : s.tokens = [] := by
      apply List.eq_nil_of_length_eq_zero
      omega
    exact Function.iterate_fixed (next_of_current_eq_none (current_eq_none_iff.2 nothing)) (k + 1)

/-- The tokens that are left tell the scanner. -/
theorem iterate_eq_of_tokens_eq {j k : Nat} (same : (next^[j] s).tokens = (next^[k] s).tokens) :
    next^[j] s = next^[k] s := by
  rcases Nat.le_total j k with before | after
  · rw [← Nat.sub_add_cancel before, Function.iterate_add_apply] at same ⊢
    exact (iterate_eq_self_of_tokens_eq _ same.symm).symm
  · rw [← Nat.sub_add_cancel after, Function.iterate_add_apply] at same ⊢
    exact iterate_eq_self_of_tokens_eq _ same

/-- Calls for the next lexeme leave a cursor at the tokens that they leave. -/
theorem cursor_iterate (k : Nat) :
    (next^[k] s).cursor = s.cursor.leaving (next^[k] s).tokens.length := by
  have split : s.cursor.lexemes = s.lexemes.take k ++ (next^[k] s).lexemes := by
    rw [lexemes_iterate, List.take_append_drop]
    rfl
  have count : (next^[k] s).tokens.length = (next^[k] s).lexemes.length := List.length_map _
  rw [count, Cursor.leaving_length split, ← s.length_cursor_iterate k]
  rfl

/-- A scanner and the cursor at its place refuse alike. -/
theorem refusal_eq (wanted : Option TokenKind) : s.refusal wanted = s.cursor.refusal wanted := by
  unfold refusal Cursor.refusal
  rw [place_eq_pos, token_eq_head?]
  cases wanted <;> rfl

end Scanner

namespace Descent

variable {α : Type}

/-! ## Answers and progress -/

/-- The reading ends with the answer `p`, which it gives at every depth beyond a bound.  In `m`
there is one reading for each depth. -/
def EndsWith (m : Nat → Descent α) (s : Scanner) (p : Except SyntaxError α × Scanner) : Prop :=
  ∀ depth, 3 * s.tokens.length + 2 < depth → (m depth).run s = some p

/-- Readings that agree with one reading of tokens give one answer. -/
theorem Agrees.run_eq {m m' : Descent α} {s : Scanner} {r : Except Stop (α × List Token)}
    (left : Agrees m s r) (right : Agrees m' s r) : m.run s = m'.run s := by
  cases left with
  | value k read run =>
    cases right with
    | refusal j read' run' =>
      rw [read] at read'
      cases read'
    | value j read' run' =>
      obtain ⟨rfl, same⟩ := Prod.mk.inj (Except.ok.inj (read.symm.trans read'))
      rw [run, run', s.iterate_eq_of_tokens_eq same]
  | refusal k read run =>
    cases right with
    | value j read' run' =>
      rw [read] at read'
      cases read'
    | refusal j read' run' =>
      obtain ⟨rfl, same⟩ := Stop.mk.inj (Except.error.inj (read.symm.trans read'))
      rw [run, run', s.iterate_eq_of_tokens_eq same]

/-- From the scanner `s` the reading ends as the reading of the tokens does, and gets on. -/
inductive Progresses (m : Nat → Descent α) (s : Scanner) : Except Stop (α × List Token) → Prop
  /-- After a success, the scanner stands after all of the lexeme at which it stood. -/
  | value {a : α} {s' : Scanner} (ends : EndsWith m s (.ok a, s'))
    (onward : ∃ k, s' = Scanner.next^[k] s) (moved : s.place < s'.place)
    (past : s.taken ≤ s'.place) : Progresses m s (.ok (a, s'.tokens))
  /-- After a failure, it has not moved back, and stands where the refusal says. -/
  | refusal {wanted : Option TokenKind} {s' : Scanner}
    (ends : EndsWith m s (.error (s'.refusal wanted), s'))
    (onward : ∃ k, s' = Scanner.next^[k] s) (kept : s.place ≤ s'.place)
    (here : (s'.refusal wanted).pos = s'.place) : Progresses m s (.error ⟨wanted, s'.tokens⟩)

section

variable {m : Nat → Descent α} {s : Scanner} {r : Except Stop (α × List Token)}
  (agrees : ∀ depth, 3 * s.tokens.length + 2 < depth → Agrees (m depth) s r)

include agrees

/-- What a reading gives just beyond the bound is its answer. -/
theorem endsWith_of_agrees {p : Except SyntaxError α × Scanner}
    (ran : (m (3 * s.tokens.length + 3)).run s = some p) : EndsWith m s p := by
  intro depth enough
  rw [← ran]
  exact (agrees depth enough).run_eq (agrees _ (Nat.lt_succ_self _))

theorem exists_endsWith : ∃ p, EndsWith m s p := by
  cases agrees _ (Nat.lt_succ_self _) with
  | value k read run => exact ⟨_, endsWith_of_agrees agrees run⟩
  | refusal k read run => exact ⟨_, endsWith_of_agrees agrees run⟩

/-- A reading that takes a token when it succeeds gets on. -/
theorem progresses_of_agrees
    (takes : ∀ a rest, r = .ok (a, rest) → rest.length < s.tokens.length) :
    Progresses m s r := by
  cases agrees _ (Nat.lt_succ_self _) with
  | refusal k read run =>
    have ends := endsWith_of_agrees agrees run
    rw [read]
    exact .refusal ends ⟨k, rfl⟩ (s.place_le_place_iterate k) (Scanner.pos_refusal _ _)
  | value k read run =>
    have fewer := takes _ _ read
    have ends := endsWith_of_agrees agrees run
    have present : s.current ≠ none := by
      intro atEnd
      rw [Scanner.current_eq_none_iff.1 atEnd] at fewer
      cases fewer
    rw [read]
    cases k with
    | zero => exact (Nat.lt_irrefl _ fewer).elim
    | succ k =>
      have past := s.taken_le_place_iterate k
      exact .value ends ⟨k + 1, rfl⟩ (Nat.lt_of_lt_of_le (s.place_lt_taken present) past) past

end

/-! ## Whole sources -/

/-- Reads a term that takes up the whole source. -/
def wholeTerm (depth : Nat) : Descent Term := do
  let t ← term depth
  match ← peek with
  | none => return t
  | some _ => refuse none

/-- A whole source is read from a scanner as it is from its tokens. -/
theorem agrees_wholeTerm {depth : Nat} (s : Scanner) (enough : 3 * s.tokens.length + 2 < depth) :
    Agrees (wholeTerm depth) s (do
      let t ← Reader.wholeTerm s.tokens
      return (t, [])) := by
  rw [wholeTerm, wholeTerm_eq]
  simp only [bind_assoc]
  refine (agrees_term s enough).bind ?_
  intro t k _
  apply Agrees.peek
  rcases (Scanner.next^[k] s).tokens_eq with ⟨nowhere, tokens⟩ | ⟨u, here, tokens⟩
  · have ended := Agrees.ret t (Scanner.next^[k] s)
    rw [tokens] at ended
    rw [nowhere, tokens]
    exact ended
  · have refused : Agrees (refuse none : Descent Term) _ _ := .refuse none (Scanner.next^[k] s)
    rw [tokens] at refused
    rw [here, tokens]
    exact refused

/-- Reading a whole source from a scanner is reading it from the cursor at the same place. -/
theorem endsWith_wholeTerm (s : Scanner) :
    ∃ s', EndsWith wholeTerm s (s.cursor.read.1, s') ∧ s'.cursor = s.cursor.read.2 := by
  have agrees : ∀ depth, 3 * s.tokens.length + 2 < depth → Agrees (wholeTerm depth) s _ :=
    fun _ enough => agrees_wholeTerm s enough
  have beyond := agrees _ (Nat.lt_succ_self _)
  cases whole : Reader.wholeTerm s.tokens with
  | ok t =>
    rw [Cursor.read_of_ok whole]
    rw [whole] at beyond
    cases beyond with
    | refusal k read run => cases read
    | value k read run =>
      obtain ⟨rfl, left⟩ := Prod.mk.inj (Except.ok.inj read)
      refine ⟨_, endsWith_of_agrees agrees run, ?_⟩
      rw [Scanner.cursor_iterate, ← left]
      rfl
  | error stop =>
    rw [Cursor.read_of_error whole]
    rw [whole] at beyond
    cases beyond with
    | value k read run => cases read
    | refusal k read run =>
      cases read
      have ends := endsWith_of_agrees agrees run
      rw [Scanner.refusal_eq, Scanner.cursor_iterate] at ends
      exact ⟨_, ends, Scanner.cursor_iterate s k⟩

/-! ## All of the grammar -/

/-- Reading comes to an end and gets on, whatever stands in the source and wherever the scanner is
in it.  So it is for a term, for a unit, and for a `let`, which is given by what stands after the
word.  The loop over the units of a term and the loop over the bindings of a `let` end as well,
whatever they have read before.  Reading a whole source by these functions is reading it from a
cursor. -/
theorem halts_with_progress (s : Scanner) :
    Progresses term s (outcome (Reader.term s.tokens)) ∧
      Progresses unit s (outcome (Reader.unit s.tokens)) ∧
      Progresses letForm s (outcome (Reader.term (.letWord :: s.next.tokens))) ∧
      (∀ head, ∃ p, EndsWith (arguments · head) s p) ∧
      (∀ bound, ∃ p, EndsWith (bindings · bound) s p) ∧
      ∃ s', EndsWith wholeTerm s (s.cursor.read.1, s') ∧ s'.cursor = s.cursor.read.2 := by
  refine ⟨?_, ?_, ?_, ?_, ?_, endsWith_wholeTerm s⟩
  · apply progresses_of_agrees (fun _ enough => agrees_term s enough)
    intro t rest read
    exact length_lt_of_outcome read
  · apply progresses_of_agrees (fun _ enough => agrees_unit s (by omega))
    intro t rest read
    exact length_lt_of_outcome read
  · apply progresses_of_agrees (fun _ enough => agrees_letForm s (by omega))
    intro t rest read
    rw [outcome_term_let] at read
    obtain ⟨⟨bound, rest₁⟩, boundRead, read⟩ := bind_eq_ok.1 read
    obtain ⟨⟨body, rest₂⟩, bodyRead, read⟩ := bind_eq_ok.1 read
    cases read
    have shorter₁ := length_lt_of_outcome boundRead
    have shorter₂ := length_lt_of_outcome bodyRead
    rw [Scanner.tokens_next, List.length_tail] at shorter₁
    omega
  · intro head
    exact exists_endsWith fun _ enough => agrees_arguments head s (by omega)
  · intro bound
    exact exists_endsWith fun _ enough => agrees_bindings bound s (by omega)

end Descent

end Stepwise
