/-!
# Small letters

Words that are compared without regard to case are brought to small letters first.  Capitals
outside ASCII are changed only where the small letter takes another number of octets in UTF-8:
the words that they are compared with are ASCII, so of the others only the number of octets counts.
-/

namespace Stepwise

/-- The capitals outside ASCII whose small letter has another width in UTF-8, with that letter. -/
def reshapedCapitals : List (Nat × Nat) :=
  [(0x130, 0x69), (0x23A, 0x2C65), (0x23E, 0x2C66), (0x1E9E, 0xDF), (0x2126, 0x3C9),
   (0x212A, 0x6B), (0x212B, 0xE5), (0x2C62, 0x26B), (0x2C64, 0x27D), (0x2C6D, 0x251),
   (0x2C6E, 0x271), (0x2C6F, 0x250), (0x2C70, 0x252), (0x2C7E, 0x23F), (0x2C7F, 0x240),
   (0xA78D, 0x265), (0xA7AA, 0x266), (0xA7AB, 0x25C), (0xA7AC, 0x261), (0xA7AD, 0x26C),
   (0xA7AE, 0x26A), (0xA7B0, 0x29E), (0xA7B1, 0x287), (0xA7B2, 0x29D), (0xA7C5, 0x282),
   (0xA7CB, 0x264), (0xA7DC, 0x19B)]

/-- The small letter of a capital. -/
def lowerChar (c : Char) : Char :=
  if 'A' ≤ c ∧ c ≤ 'Z' then Char.ofNat (c.toNat + 0x20)
  else
    match reshapedCapitals.lookup c.toNat with
    | some n => Char.ofNat n
    | none => c

/-- The word in small letters. -/
def lowerCase (s : String) : String := String.ofList (s.toList.map lowerChar)

end Stepwise
