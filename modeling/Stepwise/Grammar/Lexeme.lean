import Stepwise.Grammar.Token
import Stepwise.Text.Blank

/-!
# Lexemes

A lexeme is a token with its spelling and its place in the source.  `Lexeme.scan` splits a source
into lexemes: blanks separate them and are dropped, a run of identifier characters is taken as far
as it goes, and every other character is a lexeme by itself.  Nothing is refused here; a character
without a meaning is an `illegal` token.
-/

namespace Stepwise

/-- A token, how it is spelt, and the number of characters before it. -/
structure Lexeme where
  token : Token
  spelling : List Char
  pos : Nat
deriving DecidableEq

namespace Lexeme

/-- The first lexeme of the characters `cs`, which follow `pos` others, and what comes after it. -/
def next? (pos : Nat) (cs : List Char) : Option (Lexeme × List Char) :=
  let start := pos + (cs.takeWhile isBlank).length
  match cs.dropWhile isBlank with
  | [] => none
  | c :: rest =>
    if isIdentChar c then
      let word := c :: rest.takeWhile isIdentChar
      some (⟨.ofWord word, word, start⟩, rest.dropWhile isIdentChar)
    else
      some (⟨.ofMark c, [c], start⟩, rest)

/-- What comes after a lexeme is shorter than what it was taken from. -/
theorem length_lt_of_next? {pos : Nat} {cs rest : List Char} {l : Lexeme}
    (h : next? pos cs = some (l, rest)) : rest.length < cs.length := by
  have hskip := (List.dropWhile_suffix isBlank (l := cs)).length_le
  unfold next? at h
  split at h
  · simp at h
  · next c tail heq =>
    rw [heq, List.length_cons] at hskip
    split at h
    · simp only [Option.some.injEq, Prod.mk.injEq] at h
      obtain ⟨-, rfl⟩ := h
      have := (List.dropWhile_suffix isIdentChar (l := tail)).length_le
      omega
    · simp only [Option.some.injEq, Prod.mk.injEq] at h
      obtain ⟨-, rfl⟩ := h
      omega

/-- The lexemes of the characters `cs`, which follow `pos` others. -/
def scanFrom (pos : Nat) (cs : List Char) : List Lexeme :=
  match _h : next? pos cs with
  | none => []
  | some (l, rest) => l :: scanFrom (l.pos + l.spelling.length) rest
termination_by cs.length
decreasing_by exact length_lt_of_next? _h

/-- The lexemes of a source. -/
def scan (source : List Char) : List Lexeme := scanFrom 0 source

end Lexeme

end Stepwise
