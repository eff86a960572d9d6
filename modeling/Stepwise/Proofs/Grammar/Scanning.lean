import Stepwise.Grammar.Lexeme

/-!
# Scanning

What `Lexeme.scanFrom` makes of the front of a source: a blank is dropped, a run of identifier
characters that cannot go on is one lexeme, and any other character is one lexeme by itself.  These
three equations apply to every source, because no identifier character is blank.  Moving a source
to another place moves its lexemes and leaves their tokens alone, so that `Token.scan` can speak of
the tokens without their places.
-/

namespace Stepwise

/-! ## Identifier characters are not blank -/

/-- No code point lies in both tables. -/
def DisjointRanges (rs qs : List (Nat × Nat)) : Prop :=
  ∀ r ∈ rs, ∀ q ∈ qs, r.2 < q.1 ∨ q.2 < r.1

instance (rs qs : List (Nat × Nat)) : Decidable (DisjointRanges rs qs) :=
  inferInstanceAs (Decidable (∀ r ∈ rs, ∀ q ∈ qs, r.2 < q.1 ∨ q.2 < r.1))

theorem exists_range_of_inRanges {n : Nat} {rs : List (Nat × Nat)} (found : inRanges n rs = true) :
    ∃ r ∈ rs, r.1 ≤ n ∧ n ≤ r.2 := by
  induction rs with
  | nil => cases found
  | cons r rs ih =>
    simp only [inRanges, Bool.and_eq_true, Bool.or_eq_true, decide_eq_true_eq] at found
    rcases found with ⟨start, stop | later⟩
    · exact ⟨r, by simp, start, stop⟩
    · obtain ⟨q, member, within⟩ := ih later
      exact ⟨q, by simp [member], within⟩

theorem DisjointRanges.not_both {n : Nat} {rs qs : List (Nat × Nat)}
    (disjoint : DisjointRanges rs qs) (left : inRanges n rs = true)
    (right : inRanges n qs = true) : False := by
  obtain ⟨r, memberLeft, startLeft, stopLeft⟩ := exists_range_of_inRanges left
  obtain ⟨q, memberRight, startRight, stopRight⟩ := exists_range_of_inRanges right
  have apart := disjoint r memberLeft q memberRight
  omega

theorem blank_disjoint_letter : DisjointRanges blankRanges letterRanges := by
  decide +kernel

theorem blank_disjoint_decimalDigit : DisjointRanges blankRanges decimalDigitRanges := by
  decide +kernel

/-- No identifier character is blank. -/
theorem isBlank_eq_false_of_isIdentChar {c : Char} (ident : isIdentChar c = true) :
    isBlank c = false := by
  cases blank : isBlank c with
  | false => rfl
  | true =>
    simp only [isIdentChar, Bool.or_eq_true, Bool.and_eq_true, beq_iff_eq] at ident
    rcases ident with (rfl | rfl) | ⟨-, letter | digit⟩
    · exact absurd blank (by decide)
    · exact absurd blank (by decide)
    · exact (blank_disjoint_letter.not_both blank letter).elim
    · exact (blank_disjoint_decimalDigit.not_both blank digit).elim

theorem isIdentChar_eq_false_of_isBlank {c : Char} (blank : isBlank c = true) :
    isIdentChar c = false := by
  cases ident : isIdentChar c with
  | false => rfl
  | true =>
    rw [isBlank_eq_false_of_isIdentChar ident] at blank
    cases blank

namespace Lexeme

/-! ## The front of a source -/

theorem scanFrom_of_next?_eq_none {pos : Nat} {cs : List Char} (ended : next? pos cs = none) :
    scanFrom pos cs = [] := by
  rw [scanFrom]
  split
  · rfl
  · next found => rw [ended] at found; cases found

theorem scanFrom_of_next?_eq_some {pos : Nat} {cs rest : List Char} {l : Lexeme}
    (found : next? pos cs = some (l, rest)) :
    scanFrom pos cs = l :: scanFrom (l.pos + l.spelling.length) rest := by
  rw [scanFrom]
  split
  · next ended => rw [found] at ended; cases ended
  · next again =>
    rw [found] at again
    cases again
    rfl

@[simp]
theorem scanFrom_nil (pos : Nat) : scanFrom pos [] = [] :=
  scanFrom_of_next?_eq_none rfl

theorem next?_blank {c : Char} (blank : isBlank c = true) (pos : Nat) (cs : List Char) :
    next? pos (c :: cs) = next? (pos + 1) cs := by
  unfold next?
  rw [List.takeWhile_cons_of_pos blank, List.dropWhile_cons_of_pos blank, List.length_cons,
    Nat.add_comm _ 1, Nat.add_assoc]

/-- A blank at the front only moves what follows it. -/
theorem scanFrom_blank {c : Char} (blank : isBlank c = true) (pos : Nat) (cs : List Char) :
    scanFrom pos (c :: cs) = scanFrom (pos + 1) cs := by
  have same := next?_blank blank pos cs
  cases found : next? (pos + 1) cs with
  | none => rw [scanFrom_of_next?_eq_none (same.trans found), scanFrom_of_next?_eq_none found]
  | some p => rw [scanFrom_of_next?_eq_some (same.trans found), scanFrom_of_next?_eq_some found]

/-- The first lexeme of a source that does not start with a blank. -/
theorem next?_of_not_blank {c : Char} (visible : isBlank c = false) (pos : Nat) (cs : List Char) :
    next? pos (c :: cs) =
      if isIdentChar c then
        some (⟨.ofWord (c :: cs.takeWhile isIdentChar), c :: cs.takeWhile isIdentChar, pos⟩,
          cs.dropWhile isIdentChar)
      else some (⟨.ofMark c, [c], pos⟩, cs) := by
  have skipped : ¬ isBlank c = true := by simp [visible]
  unfold next?
  rw [List.takeWhile_cons_of_neg skipped, List.dropWhile_cons_of_neg skipped, List.length_nil,
    Nat.add_zero]

/-- A character that is neither blank nor part of an identifier is a lexeme by itself. -/
theorem scanFrom_mark {c : Char} (blank : isBlank c = false) (ident : isIdentChar c = false)
    (pos : Nat) (cs : List Char) :
    scanFrom pos (c :: cs) = ⟨.ofMark c, [c], pos⟩ :: scanFrom (pos + 1) cs := by
  have found : next? pos (c :: cs) = some (⟨.ofMark c, [c], pos⟩, cs) := by
    rw [next?_of_not_blank blank, if_neg (by simp [ident])]
  rw [scanFrom_of_next?_eq_some found]
  rfl

/-- What does not start with a member of a run does not lengthen one that ends before it. -/
theorem span_append_of_stops {α : Type} {p : α → Bool} {ys : List α}
    (stops : ∀ a ∈ ys.head?, p a = false) (xs : List α) :
    (xs ++ ys).takeWhile p = xs.takeWhile p ∧ (xs ++ ys).dropWhile p = xs.dropWhile p ++ ys := by
  induction xs with
  | nil =>
    cases ys with
    | nil => exact ⟨rfl, rfl⟩
    | cons y ys => simp [stops y rfl]
  | cons x xs ih => cases member : p x <;> simp [member, ih]

/-- A word does not go on with a character that is no part of an identifier. -/
theorem stops_cons {c : Char} (other : isIdentChar c = false) (cs : List Char) :
    ∀ d ∈ (c :: cs).head?, isIdentChar d = false := by
  intro d first
  cases first
  exact other

/-- A run of identifier characters is a lexeme if it cannot go on. -/
theorem scanFrom_word {word rest : List Char} (nonempty : word ≠ [])
    (ident : ∀ c ∈ word, isIdentChar c = true) (stops : ∀ c ∈ rest.head?, isIdentChar c = false)
    (pos : Nat) :
    scanFrom pos (word ++ rest) =
      ⟨.ofWord word, word, pos⟩ :: scanFrom (pos + word.length) rest := by
  cases word with
  | nil => exact (nonempty rfl).elim
  | cons c word =>
    obtain ⟨identHead, identTail⟩ := List.forall_mem_cons.1 ident
    have taken : rest.takeWhile isIdentChar = [] := (span_append_of_stops stops []).1
    have dropped : rest.dropWhile isIdentChar = rest := (span_append_of_stops stops []).2
    have found : next? pos (c :: (word ++ rest)) =
        some (⟨.ofWord (c :: word), c :: word, pos⟩, rest) := by
      rw [next?_of_not_blank (isBlank_eq_false_of_isIdentChar identHead), if_pos identHead,
        List.takeWhile_append_of_pos identTail, List.dropWhile_append_of_pos identTail, taken,
        dropped, List.append_nil]
    rw [List.cons_append, scanFrom_of_next?_eq_some found]

/-- A lexeme is a run of identifier characters, or a single character that is none. -/
theorem spelling_of_next? {pos : Nat} {cs rest : List Char} {l : Lexeme}
    (found : next? pos cs = some (l, rest)) :
    (l.spelling ≠ [] ∧ (∀ c ∈ l.spelling, isIdentChar c = true) ∧ l.token = .ofWord l.spelling) ∨
      ∃ c, isIdentChar c = false ∧ l.spelling = [c] ∧ l.token = .ofMark c := by
  unfold next? at found
  split at found
  · cases found
  · next c tail _ =>
    split at found
    · next ident =>
      cases found
      refine .inl ⟨nofun, ?_, rfl⟩
      have identTail := List.all_eq_true.1 (List.all_takeWhile (p := isIdentChar) (l := tail))
      intro d member
      rcases List.mem_cons.1 member with rfl | later
      · exact ident
      · exact identTail d later
    · next other =>
      cases found
      exact .inr ⟨c, by simpa using other, rfl, rfl⟩

theorem spelling_of_mem_scanFrom {pos : Nat} {cs : List Char} {l : Lexeme}
    (member : l ∈ scanFrom pos cs) :
    (l.spelling ≠ [] ∧ (∀ c ∈ l.spelling, isIdentChar c = true) ∧ l.token = .ofWord l.spelling) ∨
      ∃ c, isIdentChar c = false ∧ l.spelling = [c] ∧ l.token = .ofMark c := by
  induction pos, cs using scanFrom.induct with
  | case1 pos cs ended =>
    rw [scanFrom_of_next?_eq_none ended] at member
    cases member
  | case2 pos cs first rest found ih =>
    rw [scanFrom_of_next?_eq_some found] at member
    rcases List.mem_cons.1 member with rfl | later
    · exact spelling_of_next? found
    · exact ih later

/-! ## Places -/

/-- The same lexeme, `k` characters further on. -/
def shift (k : Nat) (l : Lexeme) : Lexeme := { l with pos := l.pos + k }

theorem next?_add (pos k : Nat) (cs : List Char) :
    next? (pos + k) cs = (next? pos cs).map fun p => (p.1.shift k, p.2) := by
  have start : pos + k + (cs.takeWhile isBlank).length =
      pos + (cs.takeWhile isBlank).length + k := by omega
  unfold next?
  rw [start]
  cases cs.dropWhile isBlank with
  | nil => rfl
  | cons c rest =>
    dsimp only
    split <;> rfl

/-- Moving a source moves its lexemes. -/
theorem scanFrom_add (pos k : Nat) (cs : List Char) :
    scanFrom (pos + k) cs = (scanFrom pos cs).map (shift k) := by
  induction pos, cs using scanFrom.induct with
  | case1 pos cs ended =>
    rw [scanFrom_of_next?_eq_none ended, scanFrom_of_next?_eq_none (by rw [next?_add, ended]; rfl)]
    rfl
  | case2 pos cs l rest found ih =>
    have moved : next? (pos + k) cs = some (l.shift k, rest) := by
      rw [next?_add, found]
      rfl
    have place : (l.shift k).pos + (l.shift k).spelling.length =
        l.pos + l.spelling.length + k := by
      simp only [shift]
      omega
    rw [scanFrom_of_next?_eq_some moved, scanFrom_of_next?_eq_some found, List.map_cons, place, ih]

end Lexeme

namespace Token

/-- The tokens of a source, without their places. -/
def scan (source : List Char) : List Token := (Lexeme.scan source).map Lexeme.token

/-- The tokens do not depend on where the source stands. -/
theorem map_token_scanFrom (pos : Nat) (cs : List Char) :
    (Lexeme.scanFrom pos cs).map Lexeme.token = scan cs := by
  have moved := Lexeme.scanFrom_add 0 pos cs
  rw [Nat.zero_add] at moved
  rw [moved, List.map_map]
  rfl

@[simp]
theorem scan_nil : scan [] = [] := by
  simp [scan, Lexeme.scan]

theorem scan_blank {c : Char} (blank : isBlank c = true) (cs : List Char) :
    scan (c :: cs) = scan cs := by
  rw [scan, Lexeme.scan, Lexeme.scanFrom_blank blank, map_token_scanFrom]

theorem scan_mark {c : Char} (blank : isBlank c = false) (ident : isIdentChar c = false)
    (cs : List Char) : scan (c :: cs) = ofMark c :: scan cs := by
  rw [scan, Lexeme.scan, Lexeme.scanFrom_mark blank ident, List.map_cons, map_token_scanFrom]

theorem scan_word {word rest : List Char} (nonempty : word ≠ [])
    (ident : ∀ c ∈ word, isIdentChar c = true)
    (stops : ∀ c ∈ rest.head?, isIdentChar c = false) :
    scan (word ++ rest) = ofWord word :: scan rest := by
  rw [scan, Lexeme.scan, Lexeme.scanFrom_word nonempty ident stops, List.map_cons,
    map_token_scanFrom]

theorem scan_word_blank {word : List Char} {b : Char} (nonempty : word ≠ [])
    (ident : ∀ c ∈ word, isIdentChar c = true) (blank : isBlank b = true) (rest : List Char) :
    scan (word ++ b :: rest) = ofWord word :: scan rest := by
  have stops := Lexeme.stops_cons (isIdentChar_eq_false_of_isBlank blank) rest
  rw [scan_word nonempty ident stops, scan_blank blank]

end Token

end Stepwise
