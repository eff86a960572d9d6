import Mathlib.Logic.Function.Iterate
import Stepwise.Grammar.Cursor
import Stepwise.Proofs.Grammar.Place

/-!
# Scanners

`Lexeme.scan` cuts a whole source at once.  A scanner holds one lexeme and cuts off the next one
when it is asked to, which is how a reader with one token of lookahead meets a source.

Both cut alike.  A scanner stands where a cursor stands (`Scanner.cursor`): it starts at the start
of the source, and `Scanner.next` takes the first of the lexemes away (`Scanner.lexemes_next`).  So
the lexeme that it holds after `k` calls is the one with the index `k` (`Scanner.current_iterate`).
Its place does not move back, and moves on as long as there is a lexeme
(`Scanner.taken_le_place_iterate`).
-/

namespace Stepwise

/-- A place in a source, and the lexeme there. -/
structure Scanner where
  /-- The lexeme that was cut off last, or `none` at the end of the source. -/
  current : Option Lexeme
  /-- The number of characters up to the end of that lexeme. -/
  taken : Nat
  /-- The characters after it. -/
  rest : List Char
  /-- The current lexeme is not empty, and it was taken. -/
  ends : ∀ l ∈ current, 0 < l.spelling.length ∧ taken = l.pos + l.spelling.length
  /-- There is a current lexeme unless nothing is left. -/
  ended : current = none → rest = []

namespace Scanner

/-- The scanner that has cut the first lexeme off the characters `cs`, which follow `pos` others. -/
def cut (pos : Nat) (cs : List Char) : Scanner :=
  match found : Lexeme.next? pos cs with
  | none => ⟨none, pos + cs.length, [], nofun, fun _ => rfl⟩
  | some (l, rest) =>
    ⟨some l, l.pos + l.spelling.length, rest,
      fun _ same => Option.some.inj same ▸ ⟨Lexeme.spelling_length_pos found, rfl⟩, nofun⟩

/-- The scanner at the first lexeme of a source. -/
def start (source : List Char) : Scanner := cut 0 source

/-- The scanner at the next lexeme.  At the end it stays there. -/
def next (s : Scanner) : Scanner := cut s.taken s.rest

/-- The number of characters before the current lexeme, or before the end. -/
def place (s : Scanner) : Nat := s.current.elim s.taken Lexeme.pos

theorem cut_of_next?_eq_none {pos : Nat} {cs : List Char} (found : Lexeme.next? pos cs = none) :
    cut pos cs = ⟨none, pos + cs.length, [], nofun, fun _ => rfl⟩ := by
  unfold cut
  split
  · rfl
  · next again =>
    rw [found] at again
    cases again

theorem cut_of_next?_eq_some {pos : Nat} {cs rest : List Char} {l : Lexeme}
    (found : Lexeme.next? pos cs = some (l, rest)) :
    (cut pos cs).current = some l ∧ (cut pos cs).taken = l.pos + l.spelling.length ∧
      (cut pos cs).rest = rest := by
  unfold cut
  split
  · next again =>
    rw [found] at again
    cases again
  · next again =>
    rw [found] at again
    cases again
    exact ⟨rfl, rfl, rfl⟩

/-! ## Scanners and cursors -/

/-- The current lexeme and those after it. -/
def lexemes (s : Scanner) : List Lexeme := s.current.toList ++ Lexeme.scanFrom s.taken s.rest

/-- The cursor at the same place of the same source. -/
def cursor (s : Scanner) : Cursor := ⟨s.lexemes, s.taken + s.rest.length⟩

theorem lexemes_cut (pos : Nat) (cs : List Char) :
    (cut pos cs).lexemes = Lexeme.scanFrom pos cs := by
  cases found : Lexeme.next? pos cs with
  | none =>
    rw [cut_of_next?_eq_none found, Lexeme.scanFrom_of_next?_eq_none found]
    exact Lexeme.scanFrom_nil _
  | some p =>
    obtain ⟨l, rest⟩ := p
    obtain ⟨current, taken, left⟩ := cut_of_next?_eq_some found
    rw [lexemes, current, taken, left, Lexeme.scanFrom_of_next?_eq_some found]
    rfl

theorem length_cursor_cut (pos : Nat) (cs : List Char) :
    (cut pos cs).cursor.length = pos + cs.length := by
  cases found : Lexeme.next? pos cs with
  | none =>
    rw [cut_of_next?_eq_none found]
    rfl
  | some p =>
    obtain ⟨l, rest⟩ := p
    obtain ⟨-, taken, left⟩ := cut_of_next?_eq_some found
    obtain ⟨blanks, -, place, -, -⟩ := Lexeme.next?_split found
    have length := (Lexeme.drop_of_next? found).2
    rw [cursor, taken, left]
    change l.pos + l.spelling.length + rest.length = _
    omega

theorem cursor_start (source : List Char) : (start source).cursor = Cursor.ofChars source := by
  have length := length_cursor_cut 0 source
  rw [Nat.zero_add] at length
  exact congr (congrArg Cursor.mk (lexemes_cut 0 source)) length

variable (s : Scanner)

/-- The next lexeme is the second of those that a scanner has before it. -/
theorem lexemes_next : s.next.lexemes = s.lexemes.tail := by
  rw [next, lexemes_cut, lexemes]
  cases here : s.current with
  | none =>
    rw [s.ended here, Lexeme.scanFrom_nil]
    rfl
  | some l => rfl

theorem lexemes_iterate (k : Nat) : (next^[k] s).lexemes = s.lexemes.drop k := by
  induction k with
  | zero => rfl
  | succ k ih => rw [Function.iterate_succ_apply', lexemes_next, ih, List.tail_drop]

theorem length_cursor_iterate (k : Nat) : (next^[k] s).cursor.length = s.cursor.length := by
  induction k with
  | zero => rfl
  | succ k ih => rw [Function.iterate_succ_apply', next, length_cursor_cut, ← ih, cursor]

theorem current_eq_head? : s.current = s.lexemes.head? := by
  rw [lexemes]
  cases here : s.current with
  | none =>
    rw [s.ended here, Lexeme.scanFrom_nil]
    rfl
  | some l => rfl

/-- The lexeme after `k` calls is the one with the index `k`. -/
theorem current_iterate (k : Nat) : (next^[k] s).current = s.lexemes[k]? := by
  rw [current_eq_head?, lexemes_iterate, List.head?_drop]

theorem place_eq_pos : s.place = s.cursor.pos := by
  have front := s.current_eq_head?
  unfold place cursor Cursor.pos
  cases ahead : s.lexemes with
  | nil =>
    rw [ahead] at front
    rw [front, s.ended front]
    rfl
  | cons l ls =>
    rw [ahead] at front
    rw [front]
    rfl

/-! ## Places -/

theorem place_le_taken : s.place ≤ s.taken := by
  unfold place
  cases here : s.current with
  | none => exact Nat.le_refl _
  | some l =>
    have stop := (s.ends l here).2
    rw [Option.elim_some]
    omega

theorem place_lt_taken (present : s.current ≠ none) : s.place < s.taken := by
  obtain ⟨l, here⟩ := Option.ne_none_iff_exists'.1 present
  obtain ⟨nonempty, stop⟩ := s.ends l here
  rw [place, here, Option.elim_some]
  omega

theorem le_place_cut (pos : Nat) (cs : List Char) : pos ≤ (cut pos cs).place := by
  unfold place
  cases found : Lexeme.next? pos cs with
  | none =>
    rw [cut_of_next?_eq_none found]
    exact Nat.le_add_right _ _
  | some p =>
    obtain ⟨blanks, -, place, -, -⟩ := Lexeme.next?_split found
    rw [(cut_of_next?_eq_some found).1, Option.elim_some]
    omega

/-- Every later lexeme stands after all that was taken. -/
theorem taken_le_place_iterate (k : Nat) : s.taken ≤ (next^[k + 1] s).place := by
  induction k with
  | zero => exact le_place_cut _ _
  | succ k ih =>
    have within := (next^[k + 1] s).place_le_taken
    have onward : (next^[k + 1] s).taken ≤ (next^[k + 1 + 1] s).place := by
      rw [Function.iterate_succ_apply' next (k + 1)]
      exact le_place_cut _ _
    omega

theorem place_le_place_iterate (k : Nat) : s.place ≤ (next^[k] s).place := by
  cases k with
  | zero => exact Nat.le_refl _
  | succ k => exact Nat.le_trans s.place_le_taken (s.taken_le_place_iterate k)

end Scanner

end Stepwise
