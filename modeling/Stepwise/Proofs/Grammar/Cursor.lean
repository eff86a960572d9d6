import Mathlib.Logic.Function.Iterate
import Stepwise.Proofs.Grammar.Place
import Stepwise.Proofs.Grammar.Refusal

/-!
# Cursors

Where reading leaves a cursor.  A refused reading leaves it at the offending token: the tokens
before that one begin a sentence of the grammar, and with that one they do not
(`Term.refused_at_first_offending_token`).

A cursor holds nothing but its place.  Reading on from it is reading the rest of the source as a
source of its own (`Cursor.read_ofPlace`), so several readings of one source are readings of ever
shorter rests of it (`Cursor.readTimes_eq_rest_readings`).
-/

namespace Stepwise

open Reader

/-! ## One reading -/

namespace Cursor

theorem read_of_ok {c : Cursor} {t : Term} (read : wholeTerm c.tokens = .ok t) :
    c.read = (.ok t, c.leaving 0) := by
  unfold Cursor.read
  rw [read]

theorem read_of_error {c : Cursor} {stop : Stop} (refused : wholeTerm c.tokens = .error stop) :
    c.read = (.error ((c.leaving stop.rest.length).refusal stop.wanted),
      c.leaving stop.rest.length) := by
  unfold Cursor.read
  rw [refused]

@[simp]
theorem pos_refusal (c : Cursor) (wanted : Option TokenKind) : (c.refusal wanted).pos = c.pos := by
  cases wanted <;> rfl

theorem leaving_length {c : Cursor} {before after : List Lexeme}
    (split : c.lexemes = before ++ after) : c.leaving after.length = ⟨after, c.length⟩ := by
  have count : (before ++ after).length - after.length = before.length := by
    rw [List.length_append]
    omega
  unfold leaving
  rw [split, count, List.drop_left]

/-- A refusal splits the lexemes at the place that it names, where the cursor is left. -/
theorem exists_split_of_read_error {c d : Cursor} {e : SyntaxError}
    (refused : c.read = (.error e, d)) :
    ∃ before after, c.lexemes = before ++ after ∧ d = ⟨after, c.length⟩ ∧ e.pos = d.pos ∧
      Viable (before.map Lexeme.token) ∧
      ∀ more : List Token, more.head? = (after.map Lexeme.token).head? →
        ¬ ∃ t, DerivesTerm (before.map Lexeme.token ++ more) t := by
  cases whole : wholeTerm c.tokens with
  | ok t =>
    rw [read_of_ok whole] at refused
    cases refused
  | error stop =>
    obtain ⟨taken, split, viable, again⟩ := exists_viable_of_wholeTerm_eq_error whole
    obtain ⟨before, after, lexemes, rfl, rest⟩ := List.map_eq_append_iff.1 split
    rw [read_of_error whole, ← rest, List.length_map, leaving_length lexemes] at refused
    cases refused
    refine ⟨before, after, lexemes, rfl, pos_refusal _ _, viable, ?_⟩
    intro more here derived
    obtain ⟨t, derives⟩ := derived
    rw [rest] at here
    rw [← wholeTerm_eq_ok_iff_derivesTerm, again more here] at derives
    cases derives

end Cursor

/-- A refusal points at the first offending token.  Its place is that of a token, or the end of the
source.  The tokens before it begin a sentence of the grammar.  If it is the place of a token, no
sentence begins with the tokens up to that one; if it is the end, the tokens are no sentence. -/
theorem Term.refused_at_first_offending_token {source : String} {e : SyntaxError}
    (refused : parse source = .error e) :
    ((∃ l ∈ Lexeme.scan source.toList, e.pos = l.pos) ∨ e.pos = source.length) ∧
    Viable (((Lexeme.scan source.toList).filter (·.pos < e.pos)).map Lexeme.token) ∧
    (∀ l ∈ Lexeme.scan source.toList, e.pos = l.pos →
      ¬ Viable (((Lexeme.scan source.toList).filter (·.pos ≤ e.pos)).map Lexeme.token)) ∧
    (e.pos = source.length →
      ¬ ∃ t, DerivesTerm (Token.scan source.toList) t) := by
  have read : (Cursor.ofChars source.toList).read =
      (.error e, (Cursor.ofChars source.toList).read.2) := Prod.ext refused rfl
  obtain ⟨before, after, scanned, left, place, viable, stuck⟩ :=
    Cursor.exists_split_of_read_error read
  change Lexeme.scan source.toList = before ++ after at scanned
  rw [left] at place
  rw [← String.length_toList]
  cases after with
  | nil =>
    change e.pos = source.toList.length at place
    rw [List.append_nil] at scanned
    rw [place, Lexeme.filter_pos_lt_length]
    refine ⟨.inr rfl, scanned ▸ viable, ?_, ?_⟩
    · intro l member atEnd
      have inside := Lexeme.pos_lt_length_of_mem_scan member
      omega
    · intro _
      have refusedHere := stuck [] rfl
      rw [List.append_nil, ← scanned] at refusedHere
      exact refusedHere
  | cons l after =>
    change e.pos = l.pos at place
    have member : l ∈ Lexeme.scan source.toList := by
      rw [scanned]
      exact List.mem_append_right before List.mem_cons_self
    rw [place, Lexeme.filter_pos_lt scanned, Lexeme.filter_pos_le scanned]
    refine ⟨.inl ⟨l, member, rfl⟩, viable, ?_, ?_⟩
    · intro _ _ _ completed
      obtain ⟨more, t, derives⟩ := completed
      rw [List.map_append, List.append_assoc] at derives
      exact stuck (l.token :: more) rfl ⟨t, derives⟩
    · intro atEnd
      have inside := Lexeme.pos_lt_length_of_mem_scan member
      omega

/-- The token `;` cannot stand where the parenthesis has to be closed, and the `y` after it has no
part in the refusal. -/
theorem Term.refused_at_semicolon_in_parentheses :
    ∃ e, parse "(x ; y" = .error e ∧ e.pos = 3 ∧
      Viable (((Lexeme.scan "(x ; y".toList).filter (·.pos < e.pos)).map Lexeme.token) ∧
      ¬ Viable (((Lexeme.scan "(x ; y".toList).filter (·.pos ≤ e.pos)).map Lexeme.token) := by
  have refused :
      parse "(x ; y" = .error ⟨3, .expected .rightParen (some .semicolon)⟩ := by decide +kernel
  obtain ⟨-, begun, offending, -⟩ := refused_at_first_offending_token refused
  have scanned : (⟨.semicolon, [';'], 3⟩ : Lexeme) ∈ Lexeme.scan "(x ; y".toList := by
    decide +kernel
  exact ⟨_, refused, rfl, begun, offending _ scanned rfl⟩

/-! ## Several readings -/

/-- The same refusal, `k` characters further on. -/
def SyntaxError.shift (k : Nat) (e : SyntaxError) : SyntaxError := { e with pos := e.pos + k }

namespace Cursor

/-- Where a reading of a source of the given length leaves the cursor. -/
def stoppedAt (length : Nat) : Except SyntaxError Term → Nat
  | .ok _ => length
  | .error e => e.pos

/-- A reading, refused or not, takes the lexemes up to the place where it stopped. -/
theorem exists_split_of_read (c : Cursor) :
    (∃ before, c.lexemes = before ++ c.read.2.lexemes) ∧ c.read.2.length = c.length ∧
      stoppedAt c.length c.read.1 = c.read.2.pos := by
  cases whole : wholeTerm c.tokens with
  | ok t =>
    have left : c.leaving 0 = ⟨[], c.length⟩ := leaving_length (List.append_nil _).symm
    rw [read_of_ok whole, left]
    exact ⟨⟨c.lexemes, (List.append_nil _).symm⟩, rfl, rfl⟩
  | error stop =>
    obtain ⟨before, after, split, left, place, -, -⟩ :=
      exists_split_of_read_error (read_of_error whole)
    rw [read_of_error whole]
    refine ⟨⟨before, ?_⟩, rfl, place⟩
    rw [left]
    exact split

/-- The same cursor, with `k` characters put before the source. -/
def shift (k : Nat) (c : Cursor) : Cursor := ⟨c.lexemes.map (Lexeme.shift k), c.length + k⟩

theorem tokens_shift (k : Nat) (c : Cursor) : (c.shift k).tokens = c.tokens := by
  unfold tokens shift
  rw [List.map_map]
  rfl

theorem pos_shift (k : Nat) (c : Cursor) : (c.shift k).pos = c.pos + k := by
  rcases c with ⟨_ | ⟨l, after⟩, length⟩ <;> rfl

theorem leaving_shift (k n : Nat) (c : Cursor) :
    (c.shift k).leaving n = (c.leaving n).shift k := by
  unfold leaving shift
  rw [List.length_map, List.map_drop]

theorem refusal_shift (k : Nat) (c : Cursor) (wanted : Option TokenKind) :
    (c.shift k).refusal wanted = (c.refusal wanted).shift k := by
  unfold refusal
  rw [tokens_shift, pos_shift]
  cases wanted <;> rfl

/-- Reading does not depend on where the source stands, but for the places in its refusals. -/
theorem read_shift (k : Nat) (c : Cursor) :
    (c.shift k).read = (c.read.1.mapError (SyntaxError.shift k), c.read.2.shift k) := by
  have sameTokens := tokens_shift k c
  cases whole : wholeTerm c.tokens with
  | ok t => rw [read_of_ok whole, read_of_ok (sameTokens ▸ whole), leaving_shift]; rfl
  | error stop =>
    rw [read_of_error whole, read_of_error (sameTokens ▸ whole), leaving_shift, refusal_shift]
    rfl

/-- The cursor in front of the characters of a source after the first `p`. -/
def ofPlace (source : List Char) (p : Nat) : Cursor :=
  ⟨Lexeme.scanFrom p (source.drop p), source.length⟩

theorem ofPlace_eq_shift {source : List Char} {p : Nat} (inside : p ≤ source.length) :
    ofPlace source p = (ofChars (source.drop p)).shift p := by
  have moved := Lexeme.scanFrom_add 0 p (source.drop p)
  have length : source.length = (source.drop p).length + p := by
    rw [List.length_drop]
    omega
  rw [Nat.zero_add] at moved
  unfold ofPlace shift
  rw [moved, length]
  rfl

/-- The lexeme that a cursor of a source stands at tells its place. -/
theorem ofPlace_of_split {source : List Char} {p : Nat} {before : List Lexeme} {d : Cursor}
    (inside : p ≤ source.length) (split : (ofPlace source p).lexemes = before ++ d.lexemes)
    (length : d.length = source.length) :
    d = ofPlace source d.pos ∧ p ≤ d.pos ∧ d.pos ≤ source.length := by
  obtain ⟨after, _⟩ := d
  subst length
  cases after with
  | nil =>
    refine ⟨?_, inside, Nat.le_refl _⟩
    unfold ofPlace pos
    rw [List.drop_length, Lexeme.scanFrom_nil]
  | cons l after =>
    have member : l ∈ Lexeme.scanFrom p (source.drop p) := by
      rw [show Lexeme.scanFrom p (source.drop p) = _ from split]
      exact List.mem_append_right before List.mem_cons_self
    obtain ⟨beyond, within⟩ := Lexeme.pos_of_mem_scanFrom member
    rw [List.length_drop] at within
    have rescanned := Lexeme.scanFrom_drop split
    rw [List.drop_drop, Nat.add_sub_of_le beyond] at rescanned
    refine ⟨?_, beyond, ?_⟩
    · exact congrArg (Cursor.mk · source.length) rescanned.symm
    · change l.pos ≤ source.length
      omega

/-- Reading on from a place reads the rest of the source, and leaves the cursor at another place
that is not before it. -/
theorem read_ofPlace {source : List Char} {p : Nat} (inside : p ≤ source.length) :
    (ofPlace source p).read.1 =
        (Term.parseChars (source.drop p)).mapError (SyntaxError.shift p) ∧
      (ofPlace source p).read.2 =
        ofPlace source (stoppedAt source.length (ofPlace source p).read.1) ∧
      p ≤ stoppedAt source.length (ofPlace source p).read.1 ∧
      stoppedAt source.length (ofPlace source p).read.1 ≤ source.length := by
  refine ⟨?_, ?_⟩
  · rw [ofPlace_eq_shift inside, read_shift]
    rfl
  · obtain ⟨⟨before, split⟩, length, place⟩ := exists_split_of_read (ofPlace source p)
    change stoppedAt source.length _ = _ at place
    rw [place]
    exact ofPlace_of_split inside split length

/-! ### Reading again and again -/

theorem getElem?_readTimes {n k : Nat} (c : Cursor) (below : k < n) :
    (readTimes n c)[k]? = some ((fun c => c.read.2)^[k] c).read.1 := by
  induction n generalizing k c with
  | zero => omega
  | succ n ih =>
    cases k with
    | zero => rfl
    | succ k => exact ih c.read.2 (by omega)

theorem length_readTimes (n : Nat) (c : Cursor) : (readTimes n c).length = n := by
  induction n generalizing c with
  | zero => rfl
  | succ n ih => exact congrArg (· + 1) (ih c.read.2)

/-- The place from which each of several readings of a source of the given length starts. -/
def startOf (length : Nat) (results : List (Except SyntaxError Term)) : Nat → Nat
  | 0 => 0
  | k + 1 => results[k]?.elim length (stoppedAt length)

theorem startOf_succ {length k : Nat} {results : List (Except SyntaxError Term)}
    {r : Except SyntaxError Term} (given : results[k]? = some r) :
    startOf length results (k + 1) = stoppedAt length r := by
  rw [startOf, given]
  rfl

variable (source : List Char) {n k : Nat}

/-- Each of several readings finds the cursor where the reading before it stopped. -/
theorem iterate_read_eq_ofPlace (upTo : k ≤ n) :
    (fun c => c.read.2)^[k] (ofChars source) =
        ofPlace source (startOf source.length ((ofChars source).readTimes n) k) ∧
      startOf source.length ((ofChars source).readTimes n) k ≤ source.length := by
  induction k with
  | zero => exact ⟨rfl, Nat.zero_le _⟩
  | succ k ih =>
    obtain ⟨here, inside⟩ := ih (by omega)
    have given := getElem?_readTimes (ofChars source) (show k < n by omega)
    obtain ⟨-, left, -, within⟩ := read_ofPlace inside
    rw [Function.iterate_succ_apply', startOf_succ given, here]
    exact ⟨left, within⟩

/-- A cursor that one reading leaves in its place stays there. -/
theorem getElem?_readTimes_of_fixed {j : Nat} {r : Except SyntaxError Term}
    (given : ((ofChars source).readTimes n)[k]? = some r)
    (fixed : startOf source.length ((ofChars source).readTimes n) k =
      startOf source.length ((ofChars source).readTimes n) (k + 1))
    (later : k ≤ j) (below : j < n) : ((ofChars source).readTimes n)[j]? = some r := by
  have here := (iterate_read_eq_ofPlace source (show k ≤ n by omega)).1
  have next := (iterate_read_eq_ofPlace source (show k + 1 ≤ n by omega)).1
  rw [← fixed, ← here, Function.iterate_succ_apply'] at next
  -- The cursor is nothing but its place, so the same place is a fixed point of reading.
  have stays : (fun c => c.read.2)^[j] (ofChars source) =
      (fun c => c.read.2)^[k] (ofChars source) := by
    rw [← Nat.sub_add_cancel later, Function.iterate_add_apply]
    exact Function.iterate_fixed next (j - k)
  rw [getElem?_readTimes _ below, stays, ← getElem?_readTimes _ (show k < n by omega), given]

/-- The results are those of reading ever shorter rests of the source. -/
structure RestReadings (source : String) (results : List (Except SyntaxError Term)) : Prop where
  /-- Each reading gives what the source without its first characters gives, up to where the reading
  before it stopped, with the places counted from the start of the whole source. -/
  rest : ∀ k < results.length, results[k]? =
    some ((Term.parse (String.ofList
      (source.toList.drop (startOf source.length results k)))).mapError
        (SyntaxError.shift (startOf source.length results k)))
  /-- No reading starts before the one before it. -/
  mono : ∀ k < results.length,
    startOf source.length results k ≤ startOf source.length results (k + 1)
  /-- When two readings in a row are refused at one place, all later ones are refused as the second
  of the two is. -/
  stays : ∀ (k : Nat) (e e' : SyntaxError), results[k]? = some (.error e) →
    results[k + 1]? = some (.error e') → e.pos = e'.pos →
    ∀ j, k < j → j < results.length → results[j]? = some (.error e')

/-- Reading a source `n` times, each time from where the last reading left the cursor, is reading
ever shorter rests of it. -/
theorem readTimes_eq_rest_readings (source : String) (n : Nat) :
    ((ofChars source.toList).readTimes n).length = n ∧
      RestReadings source ((ofChars source.toList).readTimes n) := by
  have length := length_readTimes n (ofChars source.toList)
  refine ⟨length, ?_, ?_, ?_⟩
  · rw [length, ← String.length_toList]
    intro k below
    obtain ⟨here, inside⟩ := iterate_read_eq_ofPlace source.toList (Nat.le_of_lt below)
    unfold Term.parse
    rw [String.toList_ofList, ← (read_ofPlace inside).1, ← here]
    exact getElem?_readTimes _ below
  · rw [length, ← String.length_toList]
    intro k below
    obtain ⟨here, inside⟩ := iterate_read_eq_ofPlace source.toList (Nat.le_of_lt below)
    have given := getElem?_readTimes (ofChars source.toList) below
    rw [here] at given
    rw [startOf_succ given]
    exact (read_ofPlace inside).2.2.1
  · rw [length]
    intro k e e' first second samePlace j later below
    refine getElem?_readTimes_of_fixed _ second ?_ later below
    rw [startOf_succ first, startOf_succ second]
    exact samePlace

/-- The first reading asks for a parenthesis where the semicolon stands, and the second finds
nothing that starts with a semicolon, as all the others do. -/
theorem readTimes_stays_at_semicolon :
    let results := (ofChars "(x ; y".toList).readTimes 3
    results[0]? = some (.error ⟨3, .expected .rightParen (some .semicolon)⟩) ∧
    results[1]? = some (.error ⟨3, .unexpected (some .semicolon)⟩) ∧
    results[2]? = some (.error ⟨3, .unexpected (some .semicolon)⟩) := by
  intro results
  have first : results[0]? = some (.error ⟨3, .expected .rightParen (some .semicolon)⟩) := by
    decide +kernel
  have second : results[1]? = some (.error ⟨3, .unexpected (some .semicolon)⟩) := by
    decide +kernel
  obtain ⟨length, readings⟩ := readTimes_eq_rest_readings "(x ; y" 3
  have inside : 2 < results.length := by
    rw [length]
    decide
  exact ⟨first, second, readings.stays 0 _ _ first second rfl 2 (by decide) inside⟩

end Cursor

end Stepwise
