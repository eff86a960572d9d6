import Stepwise.Proofs.Grammar.Scanning

/-!
# Places of lexemes

A lexeme stands in the source where its place says, after blanks only (`Lexeme.next?_split`).  So
the places of the lexemes of a source grow strictly and lie inside it, and a place tells the
lexemes before it from those after it.  A source that is scanned again from the place of one of its
lexemes gives that lexeme and those after it (`Lexeme.scanFrom_drop`): what stands before a lexeme
has no part in how it is cut.  What stands after a source has no part in how the source is cut
either, unless it goes on with the last word (`Lexeme.scanFrom_append`).
-/

namespace Stepwise

namespace Lexeme

/-- Blanks at the front only move what follows them. -/
theorem next?_dropWhile (pos : Nat) (cs : List Char) :
    next? (pos + (cs.takeWhile isBlank).length) (cs.dropWhile isBlank) = next? pos cs := by
  induction cs generalizing pos with
  | nil => rfl
  | cons c cs ih =>
    cases blank : isBlank c with
    | false => simp [blank]
    | true =>
      have place : pos + ((cs.takeWhile isBlank).length + 1) =
          pos + 1 + (cs.takeWhile isBlank).length := by omega
      rw [List.takeWhile_cons_of_pos blank, List.dropWhile_cons_of_pos blank, List.length_cons,
        place, ih, next?_blank blank]

/-- A lexeme is spelt out at its place, with nothing but blanks before it, and is the first lexeme
from there. -/
theorem next?_split {pos : Nat} {cs rest : List Char} {l : Lexeme}
    (found : next? pos cs = some (l, rest)) :
    ∃ blanks, cs = blanks ++ (l.spelling ++ rest) ∧ l.pos = pos + blanks.length ∧
      (∀ c ∈ blanks, isBlank c = true) ∧ next? l.pos (l.spelling ++ rest) = some (l, rest) := by
  have shape : l.pos = pos + (cs.takeWhile isBlank).length ∧
      l.spelling ++ rest = cs.dropWhile isBlank := by
    unfold next? at found
    split at found
    · cases found
    · next c tail dropped =>
      split at found
      · cases found
        refine ⟨rfl, ?_⟩
        rw [dropped, List.cons_append, List.takeWhile_append_dropWhile]
      · cases found
        exact ⟨rfl, dropped.symm⟩
  obtain ⟨place, spelt⟩ := shape
  refine ⟨cs.takeWhile isBlank, ?_, place, ?_, ?_⟩
  · rw [spelt, List.takeWhile_append_dropWhile]
  · exact List.all_eq_true.1 List.all_takeWhile
  · rw [place, spelt, next?_dropWhile, found]

/-- The characters after a lexeme stand where its spelling ends. -/
theorem drop_of_next? {pos : Nat} {cs rest : List Char} {l : Lexeme}
    (found : next? pos cs = some (l, rest)) :
    cs.drop (l.pos + l.spelling.length - pos) = rest ∧
      cs.length = (l.pos + l.spelling.length - pos) + rest.length := by
  obtain ⟨blanks, rfl, place, -, -⟩ := next?_split found
  have count : l.pos + l.spelling.length - pos = (blanks ++ l.spelling).length := by
    rw [List.length_append]
    omega
  rw [count, ← List.append_assoc]
  exact ⟨List.drop_left, List.length_append⟩

theorem spelling_length_pos {pos : Nat} {cs rest : List Char} {l : Lexeme}
    (found : next? pos cs = some (l, rest)) : 0 < l.spelling.length := by
  rcases spelling_of_next? found with ⟨nonempty, -, -⟩ | ⟨c, -, single, -⟩
  · exact List.length_pos_iff.2 nonempty
  · rw [single]
    exact Nat.zero_lt_one

/-- The lexemes of a source stand inside it. -/
theorem pos_of_mem_scanFrom {pos : Nat} {cs : List Char} {l : Lexeme}
    (member : l ∈ scanFrom pos cs) : pos ≤ l.pos ∧ l.pos < pos + cs.length := by
  induction pos, cs using scanFrom.induct with
  | case1 pos cs ended =>
    rw [scanFrom_of_next?_eq_none ended] at member
    cases member
  | case2 pos cs first rest found ih =>
    obtain ⟨blanks, -, place, -, -⟩ := next?_split found
    have length := (drop_of_next? found).2
    have nonempty := spelling_length_pos found
    rw [scanFrom_of_next?_eq_some found] at member
    rcases List.mem_cons.1 member with rfl | later
    · omega
    · have inside := ih later
      omega

/-- The places of lexemes grow. -/
theorem pairwise_pos_scanFrom (pos : Nat) (cs : List Char) :
    (scanFrom pos cs).Pairwise fun l m => l.pos < m.pos := by
  induction pos, cs using scanFrom.induct with
  | case1 pos cs ended =>
    rw [scanFrom_of_next?_eq_none ended]
    exact List.Pairwise.nil
  | case2 pos cs first rest found ih =>
    rw [scanFrom_of_next?_eq_some found]
    refine List.Pairwise.cons ?_ ih
    intro m later
    have beyond := (pos_of_mem_scanFrom later).1
    have nonempty := spelling_length_pos found
    omega

/-- Scanning again from the place of a lexeme finds it and those after it. -/
theorem scanFrom_drop {pos : Nat} {cs : List Char} {before after : List Lexeme} {l : Lexeme}
    (scanned : scanFrom pos cs = before ++ l :: after) :
    scanFrom l.pos (cs.drop (l.pos - pos)) = l :: after := by
  induction pos, cs using scanFrom.induct generalizing before with
  | case1 pos cs ended =>
    rw [scanFrom_of_next?_eq_none ended] at scanned
    cases List.nil_eq_append_iff.1 scanned |>.2
  | case2 pos cs first rest found ih =>
    rw [scanFrom_of_next?_eq_some found] at scanned
    cases before with
    | nil =>
      obtain ⟨rfl, rfl⟩ := List.cons.inj scanned
      obtain ⟨blanks, rfl, place, -, again⟩ := next?_split found
      have count : first.pos - pos = blanks.length := by omega
      rw [count, List.drop_left, scanFrom_of_next?_eq_some again]
    | cons m before =>
      obtain ⟨-, scannedRest⟩ := List.cons.inj scanned
      have inside : l ∈ scanFrom (first.pos + first.spelling.length) rest := by
        rw [scannedRest]
        exact List.mem_append_right before List.mem_cons_self
      have beyond := (pos_of_mem_scanFrom inside).1
      obtain ⟨blanks, -, place, -, -⟩ := next?_split found
      have rescanned := ih scannedRest
      rw [← (drop_of_next? found).1, List.drop_drop] at rescanned
      have count : first.pos + first.spelling.length - pos +
          (l.pos - (first.pos + first.spelling.length)) = l.pos - pos := by omega
      rwa [count] at rescanned

/-! ## Sources put together -/

variable {ds : List Char}

/-- The first lexeme of a source stays when something is put after the source that does not go on
with a word. -/
theorem next?_append (stops : ∀ c ∈ ds.head?, isIdentChar c = false) {pos : Nat}
    {cs rest : List Char} {l : Lexeme} (found : next? pos cs = some (l, rest)) :
    next? pos (cs ++ ds) = some (l, rest ++ ds) := by
  induction cs generalizing pos with
  | nil => cases found
  | cons c cs ih =>
    rw [List.cons_append]
    cases blank : isBlank c with
    | true =>
      rw [next?_blank blank] at found ⊢
      exact ih found
    | false =>
      obtain ⟨taken, dropped⟩ := span_append_of_stops stops cs
      rw [next?_of_not_blank blank] at found ⊢
      rw [taken, dropped]
      split at found
      · next ident =>
        cases found
        rw [if_pos ident]
      · next other =>
        cases found
        rw [if_neg other]

/-- A source without lexemes only moves what follows it. -/
theorem scanFrom_append_of_next?_eq_none {pos : Nat} {cs : List Char}
    (ended : next? pos cs = none) : scanFrom pos (cs ++ ds) = scanFrom (pos + cs.length) ds := by
  induction cs generalizing pos with
  | nil => rfl
  | cons c cs ih =>
    cases blank : isBlank c with
    | true =>
      have place : pos + (c :: cs).length = pos + 1 + cs.length := by
        rw [List.length_cons]
        omega
      rw [next?_blank blank] at ended
      rw [List.cons_append, scanFrom_blank blank, ih ended, place]
    | false =>
      rw [next?_of_not_blank blank] at ended
      split at ended <;> cases ended

/-- The lexemes of two sources put together are those of the one and then those of the other, if
the second does not go on with a word of the first. -/
theorem scanFrom_append (stops : ∀ c ∈ ds.head?, isIdentChar c = false) (pos : Nat)
    (cs : List Char) :
    scanFrom pos (cs ++ ds) = scanFrom pos cs ++ scanFrom (pos + cs.length) ds := by
  induction pos, cs using scanFrom.induct with
  | case1 pos cs ended =>
    rw [scanFrom_append_of_next?_eq_none ended, scanFrom_of_next?_eq_none ended, List.nil_append]
  | case2 pos cs l rest found ih =>
    obtain ⟨blanks, -, place, -, -⟩ := next?_split found
    have length := (drop_of_next? found).2
    have ends : l.pos + l.spelling.length + rest.length = pos + cs.length := by omega
    rw [scanFrom_of_next?_eq_some (next?_append stops found), scanFrom_of_next?_eq_some found, ih,
      ends, List.cons_append]

/-! ## Whole sources -/

variable {cs : List Char} {before after : List Lexeme} {l : Lexeme}

theorem pos_lt_length_of_mem_scan (member : l ∈ scan cs) : l.pos < cs.length := by
  have within := (pos_of_mem_scanFrom member).2
  rwa [Nat.zero_add] at within

theorem filter_pos_lt_length : (scan cs).filter (·.pos < cs.length) = scan cs := by
  refine List.filter_eq_self.2 ?_
  intro l member
  exact decide_eq_true (pos_lt_length_of_mem_scan member)

theorem pos_of_split (scanned : scan cs = before ++ l :: after) :
    (∀ m ∈ before, m.pos < l.pos) ∧ ∀ m ∈ after, l.pos < m.pos := by
  have ordered := pairwise_pos_scanFrom 0 cs
  rw [show scanFrom 0 cs = _ from scanned, List.pairwise_append, List.pairwise_cons] at ordered
  obtain ⟨-, ⟨later, -⟩, earlier⟩ := ordered
  exact ⟨fun m member => earlier m member l List.mem_cons_self, later⟩

/-- The place of a lexeme tells the lexemes before it from the others. -/
theorem filter_pos_lt (scanned : scan cs = before ++ l :: after) :
    (scan cs).filter (·.pos < l.pos) = before := by
  obtain ⟨earlier, later⟩ := pos_of_split scanned
  have kept : before.filter (·.pos < l.pos) = before := by
    refine List.filter_eq_self.2 ?_
    intro m member
    exact decide_eq_true (earlier m member)
  have dropped : (l :: after).filter (·.pos < l.pos) = [] := by
    refine List.filter_eq_nil_iff.2 ?_
    intro m member
    rw [decide_eq_true_eq]
    rcases List.mem_cons.1 member with rfl | inAfter
    · omega
    · have beyond := later m inAfter
      omega
  rw [scanned, List.filter_append, kept, dropped, List.append_nil]

theorem filter_pos_le (scanned : scan cs = before ++ l :: after) :
    (scan cs).filter (·.pos ≤ l.pos) = before ++ [l] := by
  obtain ⟨earlier, later⟩ := pos_of_split scanned
  have kept : before.filter (·.pos ≤ l.pos) = before := by
    refine List.filter_eq_self.2 ?_
    intro m member
    exact decide_eq_true (Nat.le_of_lt (earlier m member))
  have dropped : after.filter (·.pos ≤ l.pos) = [] := by
    refine List.filter_eq_nil_iff.2 ?_
    intro m inAfter
    have beyond := later m inAfter
    rw [decide_eq_true_eq]
    omega
  rw [scanned, List.filter_append, kept, List.filter_cons_of_pos (by simp), dropped]

end Lexeme

/-- The tokens of two sources put together, if the second does not go on with a word of the
first. -/
theorem Token.scan_append {ds : List Char} (stops : ∀ c ∈ ds.head?, isIdentChar c = false)
    (cs : List Char) : scan (cs ++ ds) = scan cs ++ scan ds := by
  rw [scan, Lexeme.scan, Lexeme.scanFrom_append stops, List.map_append, map_token_scanFrom,
    map_token_scanFrom]

end Stepwise
