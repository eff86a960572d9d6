import Stepwise.Text.Blank

/-!
# Text that may not be well-formed

A file or a standard input is a sequence of bytes, and nothing promises that it is UTF-8.  `Text`
keeps what such bytes spell without losing anything: a `Glyph` is a character, or a single byte
that belongs to no well-formed character.  A reader of terms sees the replacement character
U+FFFD in the place of each such byte (`Text.chars`); quoting shows the byte itself.
-/

namespace Stepwise

/-- One unit of decoded text. -/
inductive Glyph where
  /-- A well-formed character. -/
  | char (c : Char)
  /-- A byte that is part of no well-formed character. -/
  | stray (byte : UInt8)
deriving DecidableEq

/-- The character that a reader sees: U+FFFD stands for a stray byte. -/
def Glyph.toChar : Glyph → Char
  | .char c => c
  | .stray _ => '\uFFFD'

/-- Whether the glyph is a blank character; a stray byte never is. -/
def Glyph.isBlank : Glyph → Bool
  | .char c => Stepwise.isBlank c
  | .stray _ => false

/-- Decoded text, glyph by glyph. -/
abbrev Text := List Glyph

namespace Text

/-- Well-formed text. -/
def ofString (s : String) : Text := s.toList.map .char

/-- The characters that a reader of the text sees, one for each glyph. -/
def chars (t : Text) : List Char := t.map Glyph.toChar

/-- The string that a reader of the text sees. -/
def shown (t : Text) : String := String.ofList t.chars

theorem chars_ofString (s : String) : (ofString s).chars = s.toList := by
  rw [ofString, chars, List.map_map]
  exact List.map_id _

theorem shown_ofString (s : String) : (ofString s).shown = s := by
  rw [shown, chars_ofString, String.ofList_toList]

/-- The text without leading and trailing blanks. -/
def trim (t : Text) : Text := trimBy Glyph.isBlank t

/-! ## Decoding UTF-8 -/

/-- A continuation octet. -/
def isTail (b : UInt8) : Bool := 0x80 ≤ b && b ≤ 0xBF

/-- The octets that may stand second after the leading octet `a` of a character of three or four
octets.  The narrower ranges leave out overlong forms, surrogates and what lies beyond U+10FFFF. -/
def isSecond (a b : UInt8) : Bool :=
  if a = 0xE0 then 0xA0 ≤ b && b ≤ 0xBF
  else if a = 0xED then 0x80 ≤ b && b ≤ 0x9F
  else if a = 0xF0 then 0x90 ≤ b && b ≤ 0xBF
  else if a = 0xF4 then 0x80 ≤ b && b ≤ 0x8F
  else isTail b

/-- The low six bits of a continuation octet. -/
def tailBits (b : UInt8) : Nat := b.toNat % 0x40

/-- The well-formed character at the front of the octets, with the number of octets that follow
its first one. -/
def leadingChar? : List UInt8 → Option (Char × Nat)
  | [] => none
  | a :: rest =>
    if a < 0x80 then some (Char.ofNat a.toNat, 0)
    else if 0xC2 ≤ a && a ≤ 0xDF then
      match rest with
      | b :: _ =>
        if isTail b then some (Char.ofNat (a.toNat % 0x20 * 0x40 + tailBits b), 1) else none
      | _ => none
    else if 0xE0 ≤ a && a ≤ 0xEF then
      match rest with
      | b :: c :: _ =>
        if isSecond a b && isTail c then
          some (Char.ofNat ((a.toNat % 0x10 * 0x40 + tailBits b) * 0x40 + tailBits c), 2)
        else none
      | _ => none
    else if 0xF0 ≤ a && a ≤ 0xF4 then
      match rest with
      | b :: c :: d :: _ =>
        if isSecond a b && isTail c && isTail d then
          some (Char.ofNat
            (((a.toNat % 0x08 * 0x40 + tailBits b) * 0x40 + tailBits c) * 0x40 + tailBits d), 3)
        else none
      | _ => none
    else none

/-- Decodes octets after passing over the first `skip` of them, which belong to a character that
has already been taken. -/
def decodeFrom : Nat → List UInt8 → Text
  | _, [] => []
  | skip + 1, _ :: rest => decodeFrom skip rest
  | 0, a :: rest =>
    match leadingChar? (a :: rest) with
    | some (c, more) => .char c :: decodeFrom more rest
    | none => .stray a :: decodeFrom 0 rest

/-- Decodes octets; each octet that starts no well-formed character is one stray glyph. -/
def ofBytes (bytes : List UInt8) : Text := decodeFrom 0 bytes

end Text

end Stepwise
