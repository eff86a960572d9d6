import Stepwise.Text.Glyph

/-!
# Base 64

Octets written as characters, four for every three octets.  The last group may be short and is then
filled up with equals signs; line breaks count for nothing.
-/

namespace Stepwise

namespace Yaml

/-- The six bits that a character stands for. -/
def sixBits? (c : Char) : Option Nat :=
  if 'A' ≤ c ∧ c ≤ 'Z' then some (c.toNat - 0x41)
  else if 'a' ≤ c ∧ c ≤ 'z' then some (c.toNat - 0x47)
  else if '0' ≤ c ∧ c ≤ '9' then some (c.toNat + 4)
  else if c = '+' then some 62
  else if c = '/' then some 63
  else none

/-- The octets that groups of four characters stand for. -/
def base64Octets? : List Char → Option (List Nat)
  | [] => some []
  | [a, b, '=', '='] => do
    let n := (← sixBits? a) * 0x40 + (← sixBits? b)
    return [n / 0x10]
  | [a, b, c, '='] => do
    let n := ((← sixBits? a) * 0x40 + (← sixBits? b)) * 0x40 + (← sixBits? c)
    return [n / 0x400, n / 4 % 0x100]
  | a :: b :: c :: d :: rest => do
    let n := (((← sixBits? a) * 0x40 + (← sixBits? b)) * 0x40 + (← sixBits? c)) * 0x40 +
      (← sixBits? d)
    return [n / 0x10000, n / 0x100 % 0x100, n % 0x100] ++ (← base64Octets? rest)
  | _ => none

/-- The text that characters in base 64 stand for. -/
def base64? (text : String) : Option Text :=
  (base64Octets? (text.toList.filter fun c => c ≠ '\n' ∧ c ≠ '\r')).map fun octets =>
    Text.ofBytes (octets.map UInt8.ofNat)

end Yaml

end Stepwise
