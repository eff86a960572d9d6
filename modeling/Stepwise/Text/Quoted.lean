import Stepwise.Text.Glyph
import Stepwise.Text.Printable

/-!
# Quoted text

Text between quotes on one line: printable characters stand for themselves, the quote and the
backslash take a backslash before them, seven controls have a letter of their own, and all else is
written by its code in lower-case hexadecimal.  A stray byte is written `\xNN`.

The same rule writes a single character between apostrophes and text between double quotes; only
the character that needs a backslash differs.
-/

namespace Stepwise

/-- The hexadecimal digit of a value below sixteen. -/
def hexDigit (n : Nat) : Char :=
  if n < 10 then Char.ofNat (0x30 + n) else Char.ofNat (0x57 + n)

/-- The last `width` hexadecimal digits of `n`, most significant first. -/
def hexDigits : (width : Nat) → (n : Nat) → List Char
  | 0, _ => []
  | width + 1, n => hexDigits width (n / 16) ++ [hexDigit (n % 16)]

namespace Quoted

/-- The letter that stands after a backslash for one of the seven named controls. -/
def controlLetter? (c : Char) : Option Char :=
  match c.toNat with
  | 0x07 => some 'a'
  | 0x08 => some 'b'
  | 0x0C => some 'f'
  | 0x0A => some 'n'
  | 0x0D => some 'r'
  | 0x09 => some 't'
  | 0x0B => some 'v'
  | _ => none

/-- A character by its code: two digits in ASCII, four up to U+FFFF, eight beyond. -/
def escapeCode (c : Char) : List Char :=
  if c.toNat < 0x80 then '\\' :: 'x' :: hexDigits 2 c.toNat
  else if c.toNat ≤ 0xFFFF then '\\' :: 'u' :: hexDigits 4 c.toNat
  else '\\' :: 'U' :: hexDigits 8 c.toNat

/-- One character between the quotes `quote`. -/
def escape (quote c : Char) : List Char :=
  if c = quote ∨ c = '\\' then ['\\', c]
  else if isPrintable c then [c]
  else
    match controlLetter? c with
    | some l => ['\\', l]
    | none => escapeCode c

/-- One glyph between double quotes. -/
def escapeGlyph : Glyph → List Char
  | .char c => escape '"' c
  | .stray b => '\\' :: 'x' :: hexDigits 2 b.toNat

/-- Characters between double quotes. -/
def ofChars (cs : List Char) : List Char := '"' :: (cs.flatMap (escape '"') ++ ['"'])

end Quoted

/-- The string between double quotes. -/
def quoted (s : String) : String := String.ofList (Quoted.ofChars s.toList)

/-- Text between double quotes, stray bytes shown as bytes. -/
def Text.quoted (t : Text) : String :=
  String.ofList ('"' :: (t.flatMap Quoted.escapeGlyph ++ ['"']))

/-- A single character between apostrophes. -/
def quotedChar (c : Char) : String :=
  String.ofList ('\x27' :: (Quoted.escape '\x27' c ++ ['\x27']))

end Stepwise
