/-!
# Digits

Runs of digits in a base up to sixteen, and the numbers that they spell.
-/

namespace Stepwise

namespace Yaml

/-- The value of a digit in any base up to sixteen. -/
def digitValue? (c : Char) : Option Nat :=
  if '0' ≤ c ∧ c ≤ '9' then some (c.toNat - 0x30)
  else if 'a' ≤ c ∧ c ≤ 'f' then some (c.toNat - 0x57)
  else if 'A' ≤ c ∧ c ≤ 'F' then some (c.toNat - 0x37)
  else none

/-- The value of digits in the given base, read on from `value`. -/
def digitsValue? (base value : Nat) : List Char → Option Nat
  | [] => some value
  | c :: cs =>
    match digitValue? c with
    | some d => if d < base then digitsValue? base (value * base + d) cs else none
    | none => none

end Yaml

end Stepwise
