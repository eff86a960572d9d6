import Stepwise.Fixture
import Stepwise.Proofs.Grammar.Cursor
import Stepwise.Proofs.Grammar.ReadBack
import Stepwise.Text.Glyph

/-!
# Spacing

What a source reads as, or why it is refused and at which of its tokens, is decided by its tokens
alone; the place of that token in the source is looked up at the end (`Term.parseChars_eq`).  So two
sources with the same tokens are read alike, however they are laid out, and `λ` may be spelt in
either way.

Trimming a source takes no token away and moves all of them by the number of blanks before the
first.  Reading it before or after trimming therefore makes a difference to the place of a refusal
only.  Both are `Term.reading_depends_on_tokens_only`.
-/

namespace Stepwise

open Reader

/-! ## What a lexeme says -/

/-- The token with a given spelling. -/
def Token.ofSpelling : List Char → Token
  | [c] => if isIdentChar c then ofWord [c] else ofMark c
  | word => ofWord word

namespace Lexeme

/-- What a lexeme says apart from its place: the kind of its token, and the spelling if that is an
identifier or an illegal character. -/
def essence (l : Lexeme) : TokenKind × Option (List Char) :=
  (l.token.kind,
    if l.token.kind = .identifier ∨ l.token.kind = .illegal then some l.spelling else none)

variable {l m : Lexeme} {cs ds : List Char}

theorem token_of_mem_scan (member : l ∈ scan cs) : l.token = .ofSpelling l.spelling := by
  rcases spelling_of_mem_scanFrom member with ⟨nonempty, ident, word⟩ | ⟨c, other, single, mark⟩
  · rw [word]
    unfold Token.ofSpelling
    split
    · next c single =>
      have identHere : isIdentChar c = true := ident c (single ▸ List.mem_cons_self)
      rw [single, if_pos identHere]
    · rfl
  · rw [mark, single, Token.ofSpelling, if_neg (by simp [other])]

theorem token_eq_of_essence_eq (left : l ∈ scan cs) (right : m ∈ scan ds)
    (same : l.essence = m.essence) : l.token = m.token := by
  obtain ⟨sameKind, sameSpelling⟩ := Prod.mk.inj same
  by_cases spelt : m.token.kind = .identifier ∨ m.token.kind = .illegal
  · rw [sameKind, if_pos spelt, if_pos spelt] at sameSpelling
    rw [token_of_mem_scan left, token_of_mem_scan right, Option.some.inj sameSpelling]
  · exact Token.eq_of_kind_eq sameKind (not_or.1 spelt)

end Lexeme

/-- Sources whose lexemes say the same have the same tokens. -/
theorem Token.scan_eq_of_essence_eq {cs ds : List Char}
    (same : (Lexeme.scan cs).map Lexeme.essence = (Lexeme.scan ds).map Lexeme.essence) :
    scan cs = scan ds := by
  apply List.ext_getElem?
  intro i
  have here : ((Lexeme.scan cs)[i]?).map Lexeme.essence =
      ((Lexeme.scan ds)[i]?).map Lexeme.essence := by
    rw [← List.getElem?_map, ← List.getElem?_map, same]
  rw [scan, scan, List.getElem?_map, List.getElem?_map]
  cases left : (Lexeme.scan cs)[i]? with
  | none =>
    rw [left, Option.map_none, eq_comm, Option.map_eq_none_iff] at here
    rw [here]
  | some l =>
    rw [left, Option.map_some, eq_comm, Option.map_eq_some_iff] at here
    obtain ⟨m, right, alike⟩ := here
    rw [right, Option.map_some, Option.map_some]
    exact congrArg some (Lexeme.token_eq_of_essence_eq (List.mem_of_getElem? left)
      (List.mem_of_getElem? right) alike.symm)

/-! ## Reading by tokens -/

/-- The place of the token with the given index.  The end of the source comes after the last. -/
def tokenPlace (source : List Char) (i : Nat) : Nat :=
  ((Lexeme.scan source)[i]?).elim source.length Lexeme.pos

namespace Reader.Stop

/-- The index of the token at which reading the tokens `ts` stopped. -/
def index (ts : List Token) (stop : Stop) : Nat := ts.length - stop.rest.length

/-- Why reading the tokens `ts` stopped. -/
def problem (ts : List Token) (stop : Stop) : Problem :=
  match stop.wanted with
  | some kind => .expected kind ts[stop.index ts]?
  | none => .unexpected ts[stop.index ts]?

end Reader.Stop

namespace Cursor

theorem pos_leaving (c : Cursor) (n : Nat) :
    (c.leaving n).pos = (c.lexemes[c.tokens.length - n]?).elim c.length Lexeme.pos := by
  rw [tokens, List.length_map, ← List.head?_drop]
  unfold leaving pos
  cases c.lexemes.drop (c.lexemes.length - n) <;> rfl

theorem head?_tokens_leaving (c : Cursor) (n : Nat) :
    (c.leaving n).tokens.head? = c.tokens[c.tokens.length - n]? := by
  unfold tokens leaving
  rw [List.map_drop, List.head?_drop, List.length_map]

/-- The refusal at a token says why the reading of the tokens stopped there, and its place. -/
theorem refusal_leaving (source : List Char) (stop : Stop) :
    ((ofChars source).leaving stop.rest.length).refusal stop.wanted =
      ⟨tokenPlace source (stop.index (Token.scan source)), stop.problem (Token.scan source)⟩ := by
  unfold refusal Stop.problem
  rw [pos_leaving, head?_tokens_leaving]
  cases stop.wanted <;> rfl

end Cursor

namespace Term

/-- Reading is reading the tokens, with the places filled in afterwards. -/
theorem parseChars_eq (source : List Char) :
    parseChars source = (wholeTerm (Token.scan source)).mapError fun stop =>
      ⟨tokenPlace source (stop.index (Token.scan source)), stop.problem (Token.scan source)⟩ := by
  unfold parseChars
  cases whole : wholeTerm (Token.scan source) with
  | ok t =>
    rw [@Cursor.read_of_ok (.ofChars source) t whole]
    rfl
  | error stop =>
    rw [@Cursor.read_of_error (.ofChars source) stop whole, Cursor.refusal_leaving]
    rfl

/-- Two sources with the same tokens read as the same term, or are refused for the same reason at
the tokens with the same index. -/
theorem parseChars_of_same_tokens {cs ds : List Char} (same : Token.scan cs = Token.scan ds) :
    (∃ t, parseChars cs = .ok t ∧ parseChars ds = .ok t) ∨
      ∃ problem, ∃ i ≤ (Lexeme.scan cs).length,
        parseChars cs = .error ⟨tokenPlace cs i, problem⟩ ∧
        parseChars ds = .error ⟨tokenPlace ds i, problem⟩ := by
  rw [parseChars_eq cs, parseChars_eq ds, same]
  cases wholeTerm (Token.scan ds) with
  | ok t => exact .inl ⟨t, rfl, rfl⟩
  | error stop =>
    have within : stop.index (Token.scan ds) ≤ (Lexeme.scan cs).length := by
      rw [← same, Stop.index, Token.scan, List.length_map]
      omega
    exact .inr ⟨stop.problem (Token.scan ds), _, within, rfl, rfl⟩

end Term

/-! ## Trimming -/

theorem trimBy_map {α β : Type} (p : β → Bool) (f : α → β) (items : List α) :
    trimBy p (items.map f) = (trimBy (p ∘ f) items).map f := by
  unfold trimBy
  rw [List.dropWhile_map, ← List.map_reverse, List.dropWhile_map, ← List.map_reverse]

/-- A stray byte is read as a character that is not blank. -/
theorem isBlank_comp_toChar : isBlank ∘ Glyph.toChar = Glyph.isBlank := by
  funext g
  cases g with
  | char c => rfl
  | stray b =>
    have visible : isBlank '\uFFFD' = false := by decide
    exact visible

namespace Text

theorem chars_trim (s : Text) : s.trim.chars = trimBlanks s.chars := by
  rw [trimBlanks, chars, chars, trimBy_map, isBlank_comp_toChar]
  rfl

theorem length_takeWhile_chars (s : Text) :
    (s.chars.takeWhile isBlank).length = (s.takeWhile Glyph.isBlank).length := by
  rw [chars, List.takeWhile_map, List.length_map, isBlank_comp_toChar]

theorem length_chars (s : Text) : s.chars.length = s.length := List.length_map _

end Text

/-- A token of a source stands behind the blanks before it and its place in the trimmed source; the
end of the source stays the end. -/
theorem tokenPlace_eq_of_trimBlanks (cs : List Char) (i : Nat) :
    tokenPlace cs i =
      if tokenPlace (trimBlanks cs) i < (trimBlanks cs).length then
        tokenPlace (trimBlanks cs) i + (cs.takeWhile isBlank).length
      else cs.length := by
  unfold tokenPlace
  rw [Lexeme.scan_eq_map_shift_trimBlanks cs, List.getElem?_map]
  cases found : (Lexeme.scan (trimBlanks cs))[i]? with
  | none => simp
  | some l =>
    have inside : l.pos < (trimBlanks cs).length :=
      Lexeme.pos_lt_length_of_mem_scan (List.mem_of_getElem? found)
    rw [Option.map_some, Option.elim_some, Option.elim_some, if_pos inside]
    rfl

namespace Term

/-- Trimming a source changes nothing but the place of a refusal: blanks before a token do not count
any more, and the end of the source is where the trimmed source ends. -/
theorem parseChars_eq_of_trimBlanks (cs : List Char) :
    parseChars cs = (parseChars (trimBlanks cs)).mapError fun e =>
      { e with pos :=
        if e.pos < (trimBlanks cs).length then e.pos + (cs.takeWhile isBlank).length
        else cs.length } := by
  rw [parseChars_eq cs, parseChars_eq (trimBlanks cs), Token.scan_trimBlanks]
  cases wholeTerm (Token.scan cs) with
  | ok t => rfl
  | error stop =>
    have place := tokenPlace_eq_of_trimBlanks cs (stop.index (Token.scan cs))
    simp only [Except.mapError, place]

/-- Reading depends on the tokens only.  Let two sources have lexemes of the same kinds, with the
same spelling where these are identifiers or illegal characters.  Then both read as the same term,
or both are refused for the same reason at the tokens with the same index, the end of the source
being the one after the last.  In particular a source reads like the trimmed one.  If it is refused,
it is for the same reason, and the place is moved by the number of leading blanks, or is the end of
the source if it was the end of the trimmed one.  So the checks of golden steps, which trim what
they read, read what stands in the files. -/
theorem reading_depends_on_tokens_only :
    (∀ a b : Text,
      (Lexeme.scan a.chars).map Lexeme.essence = (Lexeme.scan b.chars).map Lexeme.essence →
      (∃ t, parseChars a.chars = .ok t ∧ parseChars b.chars = .ok t) ∨
        ∃ problem, ∃ i ≤ (Lexeme.scan a.chars).length,
          parseChars a.chars = .error ⟨tokenPlace a.chars i, problem⟩ ∧
          parseChars b.chars = .error ⟨tokenPlace b.chars i, problem⟩) ∧
    (∀ s : Text, parseChars s.chars = (parseChars s.trim.chars).mapError fun e =>
      { e with pos :=
        if e.pos < s.trim.length then e.pos + (s.takeWhile Glyph.isBlank).length
        else s.length }) ∧
    ∀ s : String, Fixture.term? s = (parse s).toOption := by
  refine ⟨?_, ?_, ?_⟩
  · intro a b same
    exact parseChars_of_same_tokens (Token.scan_eq_of_essence_eq same)
  · intro s
    have law := parseChars_eq_of_trimBlanks s.chars
    rw [← Text.chars_trim, Text.length_chars, Text.length_chars, Text.length_takeWhile_chars] at law
    exact law
  · intro s
    rw [parse, parseChars_eq_of_trimBlanks, Fixture.term?]
    cases parseChars (trimBlanks s.toList) <;> rfl

/-- Both sources go on with a semicolon after `let x = λy.y; in x`.  They are refused at that token,
which is the eleventh of either, whatever stands between the tokens. -/
theorem reading_depends_on_tokens_only_two_layouts :
    let a := Text.ofString "let x = λy.y; in x ;"
    let b := Text.ofString "\tlet x=\\y .\ny;in  x;"
    (Lexeme.scan a.chars).map Lexeme.essence = (Lexeme.scan b.chars).map Lexeme.essence ∧
      parseChars a.chars = .error ⟨19, .unexpected (some .semicolon)⟩ ∧
      ∃ i, tokenPlace a.chars i = 19 ∧
        parseChars b.chars = .error ⟨tokenPlace b.chars i, .unexpected (some .semicolon)⟩ := by
  intro a b
  have same : (Lexeme.scan a.chars).map Lexeme.essence =
      (Lexeme.scan b.chars).map Lexeme.essence := by decide +kernel
  have refused : parseChars a.chars = .error ⟨19, .unexpected (some .semicolon)⟩ := by
    decide +kernel
  refine ⟨same, refused, ?_⟩
  rcases reading_depends_on_tokens_only.1 a b same with
    ⟨t, read, -⟩ | ⟨problem, i, -, refusedA, refusedB⟩
  · rw [refused] at read
    cases read
  · rw [refused] at refusedA
    obtain ⟨place, reason⟩ := SyntaxError.mk.inj (Except.error.inj refusedA)
    exact ⟨i, place.symm, reason ▸ refusedB⟩

end Term

end Stepwise
