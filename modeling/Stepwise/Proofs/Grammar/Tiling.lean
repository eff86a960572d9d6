import Stepwise.Proofs.Grammar.Scanner

/-!
# The lexemes tile the source

Asking a scanner for one lexeme after the other loses no character, takes none twice and cuts no
word (`Scanner.lexemes_tile_source`).  That no word is cut is a fact about boundaries: no word goes
on from what has been taken to what is left (`Boundary`).  This holds before the first lexeme, where
nothing has been taken, and each call keeps it (`Scanner.StandsIn.next`), because a word is taken
as far as it goes and a mark is no part of a word.
-/

namespace Stepwise

/-! ## Words and marks -/

/-- The kinds of the tokens that are spelt with identifier characters. -/
def TokenKind.isWord : TokenKind → Bool
  | identifier | letWord | inWord => true
  | _ => false

namespace Token

theorem isWord_ofWord (word : List Char) : (ofWord word).kind.isWord = true := by
  unfold ofWord
  split
  · rfl
  · split <;> rfl

theorem isWord_ofMark (c : Char) : (ofMark c).kind.isWord = false := by
  unfold ofMark
  split <;> rfl

theorem kind_ofWord_eq_letWord (word : List Char) :
    (ofWord word).kind = .letWord ↔ word = ['l', 'e', 't'] := by
  unfold ofWord
  split
  · next isLet => simp [isLet, kind]
  · next notLet => split <;> simp [notLet, kind]

theorem kind_ofWord_eq_inWord (word : List Char) :
    (ofWord word).kind = .inWord ↔ word = ['i', 'n'] := by
  unfold ofWord
  split
  · next isLet => simp [isLet, kind]
  · split
    · next isIn => simp [isIn, kind]
    · next notIn => simp [notIn, kind]

/-- An identifier has the name that it is spelt with. -/
theorem eq_ofList_of_ofWord_eq_ident {word : List Char} {name : String}
    (same : ofWord word = .ident name) : name = String.ofList word := by
  unfold ofWord at same
  split at same
  · cases same
  · split at same <;> cases same
    rfl

end Token

/-- A word between `before` and `after` that goes on in neither direction. -/
structure MaximalRun (before word after : List Char) : Prop where
  nonempty : word ≠ []
  ident : ∀ c ∈ word, isIdentChar c = true
  starts : ∀ c ∈ before.getLast?, isIdentChar c = false
  stops : ∀ c ∈ after.head?, isIdentChar c = false

/-! ## Boundaries -/

/-- No word goes on from `before` to `after`. -/
def Boundary (before after : List Char) : Prop :=
  ∀ c ∈ before.getLast?, ∀ d ∈ after.head?, isIdentChar c = true → isIdentChar d = false

namespace Boundary

theorem nil (after : List Char) : Boundary [] after := by
  intro c last
  cases last

/-- Blanks after a boundary do not make a word go on. -/
theorem append_blanks {before blanks after : List Char}
    (boundary : Boundary before (blanks ++ after)) (blank : ∀ c ∈ blanks, isBlank c = true) :
    Boundary (before ++ blanks) after := by
  cases ends : blanks.getLast? with
  | none =>
    obtain rfl := List.getLast?_eq_none_iff.1 ends
    rw [List.append_nil]
    exact boundary
  | some b =>
    intro c last d _ ident
    rw [List.getLast?_append, ends] at last
    cases last
    rw [isIdentChar_eq_false_of_isBlank (blank b (List.mem_of_getLast? ends))] at ident
    cases ident

/-- A word at a boundary starts there. -/
theorem maximalRun {before word after : List Char} (boundary : Boundary before (word ++ after))
    (nonempty : word ≠ []) (ident : ∀ c ∈ word, isIdentChar c = true)
    (stops : ∀ c ∈ after.head?, isIdentChar c = false) : MaximalRun before word after := by
  refine ⟨nonempty, ident, ?_, stops⟩
  intro c last
  cases goesOn : isIdentChar c with
  | false => rfl
  | true =>
    obtain ⟨d, word, rfl⟩ := List.exists_cons_of_ne_nil nonempty
    have apart := boundary c last d rfl goesOn
    rw [ident d List.mem_cons_self] at apart
    cases apart

end Boundary

/-! ## The first lexeme -/

namespace Lexeme

/-- A lexeme is what stands in the source at its place: a whole word, or a single character that is
neither blank nor part of a word.  The words `let` and `in` are keywords, and no other lexeme is. -/
structure CutOut (source : List Char) (l : Lexeme) : Prop where
  spelt : source.extract l.pos (l.pos + l.spelling.length) = l.spelling
  word : l.token.kind.isWord = true →
    MaximalRun (source.take l.pos) l.spelling (source.drop (l.pos + l.spelling.length))
  mark : l.token.kind.isWord = false →
    ∃ c, l.spelling = [c] ∧ isBlank c = false ∧ isIdentChar c = false ∧ l.token = .ofMark c
  letWord : l.token.kind = .letWord ↔ l.spelling = ['l', 'e', 't']
  inWord : l.token.kind = .inWord ↔ l.spelling = ['i', 'n']
  name : ∀ name, l.token = .ident name → name = String.ofList l.spelling

section

variable {pos : Nat} {cs rest : List Char} {l : Lexeme}

/-- Without a lexeme all that is left is blank. -/
theorem isBlank_of_next?_eq_none (ended : next? pos cs = none) : ∀ c ∈ cs, isBlank c = true := by
  unfold next? at ended
  split at ended
  · next dropped =>
    have whole := List.takeWhile_append_dropWhile (p := isBlank) (l := cs)
    rw [dropped, List.append_nil] at whole
    rw [← whole]
    exact List.all_eq_true.1 List.all_takeWhile
  · split at ended <;> cases ended

/-- No lexeme starts with a blank. -/
theorem isBlank_eq_false_of_next? (found : next? pos cs = some (l, rest)) :
    ∀ c ∈ l.spelling.head?, isBlank c = false := by
  unfold next? at found
  split at found
  · cases found
  · next c tail dropped =>
    have visible := List.head?_dropWhile_not isBlank cs
    rw [dropped] at visible
    intro d first
    split at found <;> cases found <;> cases first <;> exact visible

/-- A word is taken as far as it goes. -/
theorem stops_of_next? (found : next? pos cs = some (l, rest))
    (ident : ∀ c ∈ l.spelling, isIdentChar c = true) :
    ∀ c ∈ rest.head?, isIdentChar c = false := by
  unfold next? at found
  split at found
  · cases found
  · next c tail _ =>
    split at found
    · cases found
      intro d first
      have stop := List.head?_dropWhile_not isIdentChar tail
      rwa [first] at stop
    · next other =>
      cases found
      exact (other (ident c List.mem_cons_self)).elim

/-- A lexeme is a keyword exactly if it is spelt like one. -/
theorem kind_eq_iff_of_next? (found : next? pos cs = some (l, rest)) {kind : TokenKind}
    {word : List Char} (isWord : kind.isWord = true) (long : ∀ c, word ≠ [c])
    (spells : ∀ w, (Token.ofWord w).kind = kind ↔ w = word) :
    l.token.kind = kind ↔ l.spelling = word := by
  rcases spelling_of_next? found with ⟨-, -, token⟩ | ⟨c, -, single, token⟩
  · rw [token]
    exact spells l.spelling
  · rw [token, single]
    constructor
    · rintro rfl
      rw [Token.isWord_ofMark] at isWord
      cases isWord
    · intro same
      exact (long c same.symm).elim

end

variable {before cs rest : List Char} {l : Lexeme}

/-- Where a lexeme stands that was found at a boundary, and the boundary behind it. -/
theorem cutOut_of_next? (boundary : Boundary before cs)
    (found : next? before.length cs = some (l, rest)) :
    l.CutOut (before ++ cs) ∧
      ∃ upTo, before ++ cs = upTo ++ rest ∧ upTo.length = l.pos + l.spelling.length ∧
        Boundary upTo rest := by
  have letWord := kind_eq_iff_of_next? found rfl (by simp) Token.kind_ofWord_eq_letWord
  have inWord := kind_eq_iff_of_next? found rfl (by simp) Token.kind_ofWord_eq_inWord
  have visible := isBlank_eq_false_of_next? found
  obtain ⟨blanks, rfl, place, blank, -⟩ := next?_split found
  have front := boundary.append_blanks blank
  have start : (before ++ blanks).length = l.pos := by rw [List.length_append, place]
  have stop : (before ++ blanks ++ l.spelling).length = l.pos + l.spelling.length := by
    rw [List.length_append, start]
  have whole : before ++ (blanks ++ (l.spelling ++ rest)) =
      before ++ blanks ++ l.spelling ++ rest := by simp only [List.append_assoc]
  have taken : (before ++ blanks ++ l.spelling ++ rest).take l.pos = before ++ blanks := by
    rw [List.append_assoc _ l.spelling, List.take_left' start]
  have left : (before ++ blanks ++ l.spelling ++ rest).drop (l.pos + l.spelling.length) = rest :=
    List.drop_left' stop
  have spelt : (before ++ blanks ++ l.spelling ++ rest).extract l.pos
      (l.pos + l.spelling.length) = l.spelling := by
    rw [List.extract_eq_take_drop, List.append_assoc _ l.spelling, List.drop_left' start,
      Nat.add_sub_cancel_left, List.take_left]
  rw [whole]
  rcases spelling_of_next? found with ⟨nonempty, ident, token⟩ | ⟨c, other, single, token⟩
  · have stops := stops_of_next? found ident
    refine ⟨⟨spelt, ?_, ?_, letWord, inWord, ?_⟩, _, rfl, stop, ?_⟩
    · intro _
      rw [taken, left]
      exact front.maximalRun nonempty ident stops
    · intro noWord
      rw [token, Token.isWord_ofWord] at noWord
      cases noWord
    · intro name same
      exact Token.eq_ofList_of_ofWord_eq_ident (token.symm.trans same)
    · intro _ _ d first _
      exact stops d first
  · have noWord : l.token.kind.isWord = false := by rw [token, Token.isWord_ofMark]
    rw [single] at visible
    refine ⟨⟨spelt, ?_, ?_, letWord, inWord, ?_⟩, _, rfl, stop, ?_⟩
    · intro word
      rw [noWord] at word
      cases word
    · intro _
      exact ⟨c, single, visible c rfl, other, token⟩
    · intro name same
      rw [same] at noWord
      cases noWord
    · intro d last _ _ ident
      rw [single, List.getLast?_concat] at last
      cases last
      rw [other] at ident
      cases ident

/-- There are no more lexemes than characters. -/
theorem length_scanFrom_le (pos : Nat) (cs : List Char) :
    (scanFrom pos cs).length ≤ cs.length := by
  induction pos, cs using scanFrom.induct with
  | case1 pos cs ended =>
    rw [scanFrom_of_next?_eq_none ended]
    exact Nat.zero_le _
  | case2 pos cs l rest found ih =>
    have shorter := length_lt_of_next? found
    rw [scanFrom_of_next?_eq_some found, List.length_cons]
    omega

end Lexeme

namespace Scanner

/-! ## One call -/

/-- The scanner goes through the source, and no word goes on behind what it has taken. -/
def StandsIn (source : List Char) (s : Scanner) : Prop :=
  ∃ before, source = before ++ s.rest ∧ before.length = s.taken ∧ Boundary before s.rest

/-- The scanner is the result of a call that came when `taken` characters had been taken. -/
structure Moved (source : List Char) (taken : Nat) (s : Scanner) : Prop where
  standsIn : s.StandsIn source
  cutOut : ∀ l ∈ s.current, l.CutOut source
  skipped : ∀ c ∈ source.extract taken s.place, isBlank c = true

/-- At a boundary, blanks are skipped and what stands behind them is cut out. -/
theorem moved_cut {before cs : List Char} (boundary : Boundary before cs) :
    Moved (before ++ cs) before.length (cut before.length cs) := by
  cases found : Lexeme.next? before.length cs with
  | none =>
    rw [cut_of_next?_eq_none found]
    refine ⟨⟨before ++ cs, (List.append_nil _).symm, List.length_append, ?_⟩, nofun, ?_⟩
    · intro _ _ d first
      cases first
    · rw [List.extract_eq_take_drop, List.drop_left]
      intro c member
      exact Lexeme.isBlank_of_next?_eq_none found c (List.mem_of_mem_take member)
  | some p =>
    obtain ⟨l, rest⟩ := p
    obtain ⟨current, taken, left⟩ := cut_of_next?_eq_some found
    obtain ⟨cutOut, upTo, split, length, behind⟩ := Lexeme.cutOut_of_next? boundary found
    refine ⟨⟨upTo, by rw [left, split], by rw [taken, length], left ▸ behind⟩, ?_, ?_⟩
    · intro m here
      rw [current] at here
      cases here
      exact cutOut
    · obtain ⟨blanks, rfl, place, blank, -⟩ := Lexeme.next?_split found
      have skipped : l.pos - before.length = blanks.length := by omega
      rw [Scanner.place, current, Option.elim_some, List.extract_eq_take_drop, List.drop_left,
        skipped, List.take_left]
      exact blank

theorem StandsIn.next {source : List Char} {s : Scanner} (stands : s.StandsIn source) :
    Moved source s.taken s.next := by
  obtain ⟨before, whole, length, boundary⟩ := stands
  have moved := moved_cut boundary
  rwa [← whole, length] at moved

/-! ## All calls -/

/-- The scanner of a source after the call that finds the first lexeme and `k` more. -/
def after (source : List Char) (k : Nat) : Scanner := Scanner.next^[k] (start source)

theorem after_succ (source : List Char) (k : Nat) :
    after source (k + 1) = (after source k).next :=
  Function.iterate_succ_apply' _ _ _

/-- The scanners `run k` go through the source, `k` being the number of calls after the one that
finds the first lexeme. -/
structure Tile (source : List Char) (run : Nat → Scanner) : Prop where
  /-- What they hold is cut out of the source. -/
  cutOut : ∀ k, ∀ l ∈ (run k).current, l.CutOut source
  /-- Each lexeme stands after the one before it. -/
  increasing : ∀ k, (run k).current ≠ none → (run k).place < (run (k + 1)).place
  /-- Before the first lexeme there are only blanks. -/
  leading : ∀ c ∈ source.extract 0 (run 0).place, isBlank c = true
  /-- So there are between two lexemes, and between the last one and the end. -/
  between : ∀ k, (run k).taken ≤ (run (k + 1)).place ∧
    ∀ c ∈ source.extract (run k).taken (run (k + 1)).place, isBlank c = true
  /-- There are at most as many lexemes as characters, and after them the end, for ever. -/
  ended : ∃ n ≤ source.length, (∀ k < n, (run k).current ≠ none) ∧
    ∀ k ≥ n, (run k).current = none ∧ (run k).place = source.length

variable (source : List Char)

theorem moved_start : Moved source 0 (start source) := moved_cut (.nil source)

theorem standsIn_after (k : Nat) : (after source k).StandsIn source := by
  induction k with
  | zero => exact (moved_start source).standsIn
  | succ k ih =>
    rw [after_succ]
    exact ih.next.standsIn

theorem cutOut_after (k : Nat) : ∀ l ∈ (after source k).current, l.CutOut source := by
  cases k with
  | zero => exact (moved_start source).cutOut
  | succ k =>
    rw [after_succ]
    exact (standsIn_after source k).next.cutOut

/-- The end comes where the source ends. -/
theorem place_after_of_current_eq_none {k : Nat} (atEnd : (after source k).current = none) :
    (after source k).place = source.length := by
  have length := (start source).length_cursor_iterate k
  rw [cursor_start] at length
  change (after source k).taken + (after source k).rest.length = source.length at length
  rw [(after source k).ended atEnd] at length
  rw [place, atEnd]
  exact length

/-- Asking a scanner for one lexeme after the other goes through the source without loss, overlap or
repetition.  The lexemes are those that reading the source starts from. -/
theorem lexemes_tile_source :
    Tile source (after source) ∧
      ∀ k, (after source k).current = (Cursor.ofChars source).lexemes[k]? := by
  have held : ∀ k, (after source k).current = (Cursor.ofChars source).lexemes[k]? := by
    intro k
    rw [after, current_iterate, ← cursor_start]
    rfl
  refine ⟨⟨cutOut_after source, ?_, (moved_start source).skipped, ?_, ?_⟩, held⟩
  · intro k present
    have within := (after source k).place_lt_taken present
    have onward := (after source k).taken_le_place_iterate 0
    rw [after_succ]
    exact Nat.lt_of_lt_of_le within onward
  · intro k
    rw [after_succ]
    exact ⟨(after source k).taken_le_place_iterate 0, (standsIn_after source k).next.skipped⟩
  · refine ⟨(Cursor.ofChars source).lexemes.length, Lexeme.length_scanFrom_le 0 source, ?_, ?_⟩
    · intro k below
      rw [held, List.getElem?_eq_getElem below]
      exact Option.some_ne_none _
    · intro k beyond
      have atEnd := (held k).trans (List.getElem?_eq_none beyond)
      exact ⟨atEnd, place_after_of_current_eq_none source atEnd⟩

end Scanner

end Stepwise
