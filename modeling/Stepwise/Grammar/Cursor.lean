import Stepwise.Grammar.Lexeme
import Stepwise.Grammar.Reader
import Stepwise.Grammar.SyntaxError

/-!
# Reading terms from a source

A cursor is a place in a source.  Reading from it moves it to the end of the source if all that is
left is one term, and to the offending token otherwise, so that a refused source can be read on
from there.  `Term.parse` reads a whole source.
-/

namespace Stepwise

/-- A place in a source: the lexemes still to be read, and the length of the source. -/
structure Cursor where
  lexemes : List Lexeme
  length : Nat

namespace Cursor

/-- The start of a source. -/
def ofChars (source : List Char) : Cursor := ⟨Lexeme.scan source, source.length⟩

/-- The number of characters before the next token, or before the end if there is none. -/
def pos (c : Cursor) : Nat :=
  match c.lexemes with
  | [] => c.length
  | l :: _ => l.pos

/-- The tokens still to be read. -/
def tokens (c : Cursor) : List Token := c.lexemes.map Lexeme.token

/-- The cursor from which only the last `n` of the tokens are still to be read. -/
def leaving (c : Cursor) (n : Nat) : Cursor :=
  { c with lexemes := c.lexemes.drop (c.lexemes.length - n) }

/-- The refusal at the cursor when a token of the kind `wanted` was asked for. -/
def refusal (c : Cursor) (wanted : Option TokenKind) : SyntaxError :=
  let found := c.tokens.head?
  match wanted with
  | some kind => ⟨c.pos, .expected kind found⟩
  | none => ⟨c.pos, .unexpected found⟩

/-- Reads all that is left as one term, and tells where the cursor is then. -/
def read (c : Cursor) : Except SyntaxError Term × Cursor :=
  match Reader.wholeTerm c.tokens with
  | .ok t => (.ok t, c.leaving 0)
  | .error stop =>
    let c := c.leaving stop.rest.length
    (.error (c.refusal stop.wanted), c)

/-- Reads `n` times, each time from where the last reading left the cursor. -/
def readTimes : (n : Nat) → Cursor → List (Except SyntaxError Term)
  | 0, _ => []
  | n + 1, c =>
    let (result, c) := c.read
    result :: readTimes n c

end Cursor

namespace Term

/-- Reads the characters of a source as one term. -/
def parseChars (source : List Char) : Except SyntaxError Term := (Cursor.ofChars source).read.1

/-- Reads a source as one term. -/
def parse (source : String) : Except SyntaxError Term := parseChars source.toList

end Term

end Stepwise
