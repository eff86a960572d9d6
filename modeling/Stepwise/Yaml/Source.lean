import Stepwise.Text.Octets
import Stepwise.Yaml.Fault

/-!
# The characters of a document

A document is written in UTF-8, or in UTF-16 if it starts with the byte order mark of that.  Octets
are read in blocks, and a block that holds a fault gives no character at all.  So a `Source` is the
characters of the blocks before the first faulty one, and the problem that reading on would meet.
A document that is given up before that point is reached never shows it.

All ways to end a line are one character, the line feed, except for the separators U+2028 and
U+2029, which scalars keep.
-/

namespace Stepwise

namespace Yaml

/-- The characters that can be read, and the problem that lies behind them. -/
structure Source where
  chars : List Char
  problem : Option Problem

/-- How characters are spelled by octets. -/
inductive Encoding where
  | utf8
  | utf16 (bigEndian : Bool)

/-- The encoding of a document that starts with the given octets, and the number of octets of its
byte order mark. -/
def Encoding.ofOctets : List Nat → Encoding × Nat
  | 0xFF :: 0xFE :: _ => (.utf16 false, 2)
  | 0xFE :: 0xFF :: _ => (.utf16 true, 2)
  | 0xEF :: 0xBB :: 0xBF :: _ => (.utf8, 3)
  | _ => (.utf8, 0)

/-- What stands at the front of some octets. -/
inductive Front where
  /-- The code of a character that takes `width` octets. -/
  | code (n : Nat) (width : Nat)
  /-- A problem that is known once `width` octets are. -/
  | bad (problem : Problem) (width : Nat)
  /-- The octets end within a character. -/
  | short (problem : Problem)

/-! ## UTF-8 -/

/-- The number of octets of a character with the given first one; none if no character has it. -/
def sequenceWidth (a : Nat) : Nat :=
  if a < 0x80 then 1
  else if a < 0xC0 then 0
  else if a < 0xE0 then 2
  else if a < 0xF0 then 3
  else if a < 0xF8 then 4
  else 0

/-- Whether an octet may follow the first one of a character. -/
def isTrailing (b : Nat) : Bool := 0x80 ≤ b && b < 0xC0

/-- The least code that takes the given number of octets. -/
def leastCode (width : Nat) : Nat :=
  if width = 2 then 0x80 else if width = 3 then 0x800 else if width = 4 then 0x10000 else 0

/-- The part of a code that the first octet of a sequence gives. -/
def leadingBits (a width : Nat) : Nat :=
  if width = 2 then a % 0x20 else if width = 3 then a % 0x10 else if width = 4 then a % 0x08 else a

/-- The character at the front in UTF-8. -/
def front8 (a : Nat) (rest : List Nat) : Front :=
  let width := sequenceWidth a
  let trailing := rest.take (width - 1)
  if width = 0 then .bad .badLeadingOctet 1
  else if trailing.length < width - 1 then .short .incompleteSequence
  else if !trailing.all isTrailing then .bad .badTrailingOctet width
  else
    let code := trailing.foldl (fun n b => n * 0x40 + b % 0x40) (leadingBits a width)
    if code < leastCode width then .bad .badSequenceLength width
    else if (0xD800 ≤ code ∧ code ≤ 0xDFFF) ∨ 0x10FFFF < code then .bad .badCharacter width
    else .code code width

/-! ## UTF-16 -/

/-- The unit that two octets spell. -/
def unitOf (bigEndian : Bool) (a b : Nat) : Nat :=
  if bigEndian then a * 0x100 + b else a + b * 0x100

/-- Whether a unit is the first one of a pair. -/
def isHighSurrogate (n : Nat) : Bool := 0xD800 ≤ n && n < 0xDC00

/-- Whether a unit is the second one of a pair. -/
def isLowSurrogate (n : Nat) : Bool := 0xDC00 ≤ n && n < 0xE000

/-- The character at the front in UTF-16. -/
def front16 (bigEndian : Bool) (a : Nat) : List Nat → Front
  | [] => .short .incompleteUnit
  | b :: rest =>
    let high := unitOf bigEndian a b
    if isLowSurrogate high then .bad .unexpectedLowSurrogate 2
    else if isHighSurrogate high then
      match rest with
      | c :: d :: _ =>
        let low := unitOf bigEndian c d
        if isLowSurrogate low then .code (0x10000 + high % 0x400 * 0x400 + low % 0x400) 4
        else .bad .expectedLowSurrogate 4
      | _ => .short .incompletePair
    else .code high 2

/-! ## Reading -/

/-- The character at the front. -/
def Encoding.front (encoding : Encoding) (a : Nat) (rest : List Nat) : Front :=
  match encoding with
  | .utf8 => front8 a rest
  | .utf16 bigEndian => front16 bigEndian a rest

/-- The codes of the characters that a document may hold. -/
def isAllowed (n : Nat) : Bool :=
  n == 0x09 || n == 0x0A || n == 0x0D || (0x20 ≤ n && n ≤ 0x7E) || n == 0x85 ||
    (0xA0 ≤ n && n ≠ 0xFFFE && n ≠ 0xFFFF)

/-- The number of octets of a block. -/
def blockSize : Nat := 512

/-- How far reading has come: the characters of the blocks before, those of the current block, both
last first, and the number of octets of the current block that are not read. -/
structure Progress where
  before : List Char
  block : List Char
  room : Nat

namespace Progress

/-- Goes on to the block that holds the next `width` octets. -/
def enter (p : Progress) (width : Nat) : Progress :=
  if width ≤ p.room then p else ⟨p.block ++ p.before, [], blockSize⟩

/-- Adds a character of `width` octets. -/
def add (p : Progress) (c : Char) (width : Nat) : Progress :=
  ⟨p.before, c :: p.block, p.room - width⟩

/-- The source of all characters read so far. -/
def all (p : Progress) (problem : Option Problem) : Source :=
  ⟨(p.block ++ p.before).reverse, problem⟩

/-- The source when the current block is faulty. -/
def spoilt (p : Progress) (problem : Problem) : Source := ⟨p.before.reverse, some problem⟩

end Progress

/-- Reads octets after passing over the first `skip` of them, which belong to a character that has
already been taken. -/
def readFrom (encoding : Encoding) : Nat → Progress → List Nat → Source
  | _, p, [] => p.all none
  | skip + 1, p, _ :: rest => readFrom encoding skip p rest
  | 0, p, a :: rest =>
    match encoding.front a rest with
    | .short problem => p.all (some problem)
    | .bad problem width => (p.enter width).spoilt problem
    | .code n width =>
      let p := p.enter width
      if isAllowed n then readFrom encoding (width - 1) (p.add (Char.ofNat n) width) rest
      else p.spoilt .controlCharacter

/-- The characters with every line break that has no meaning of its own written as a line feed. -/
def unifyBreaks : List Char → List Char
  | [] => []
  | '\r' :: '\n' :: cs => '\n' :: unifyBreaks cs
  | c :: cs => (if c = '\r' ∨ c = '\u0085' then '\n' else c) :: unifyBreaks cs

/-- The source that text is. -/
def Source.ofText (text : Text) : Source :=
  let octets := text.octets
  let (encoding, mark) := Encoding.ofOctets octets
  let source := readFrom encoding mark ⟨[], [], blockSize - mark⟩ octets
  ⟨unifyBreaks source.chars, source.problem⟩

end Yaml

end Stepwise
