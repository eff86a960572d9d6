import Stepwise.Text.Glyph
import Stepwise.Yaml.Timestamp

/-!
# Scalars

A plain scalar is read as null, a truth value, an integer, a number or a date if it has the form of
one, and as a string otherwise.  A string that would be read as something else is written between
quotes.
-/

namespace Stepwise

namespace Yaml

/-- What a node is read as. -/
inductive Tag where
  | null
  | bool
  | int
  | float
  | timestamp
  | str
  | binary
  /-- The key whose value lends its entries to the map around it. -/
  | merge
  | seq
  | map
  /-- A tag that no rule knows. -/
  | other (name : Text)
deriving DecidableEq

/-- The tags that have a name of their own, with it. -/
def Tag.standard : List (String × Tag) :=
  [("!!null", null), ("!!bool", bool), ("!!int", int), ("!!float", float),
   ("!!timestamp", timestamp), ("!!str", str), ("!!binary", binary), ("!!merge", merge),
   ("!!seq", seq), ("!!map", map)]

/-- The tag with the given name. -/
def Tag.ofName (name : Text) : Tag :=
  match standard.find? fun (standardName, _) => Text.ofString standardName = name with
  | some (_, tag) => tag
  | none => other name

/-- The name of a tag. -/
def Tag.name : Tag → Text
  | null => Text.ofString "!!null"
  | bool => Text.ofString "!!bool"
  | int => Text.ofString "!!int"
  | float => Text.ofString "!!float"
  | timestamp => Text.ofString "!!timestamp"
  | str => Text.ofString "!!str"
  | binary => Text.ofString "!!binary"
  | merge => Text.ofString "!!merge"
  | seq => Text.ofString "!!seq"
  | map => Text.ofString "!!map"
  | other name => name

/-! ## Integers -/

/-- The value of an integer without a sign: binary after `0b`, octal after `0o` or `0`, hexadecimal
after `0x`, decimal otherwise. -/
def unsigned? : List Char → Option Nat
  | [] => none
  | '0' :: mark :: d :: ds =>
    if mark = 'b' ∨ mark = 'B' then digitsValue? 2 0 (d :: ds)
    else if mark = 'o' ∨ mark = 'O' then digitsValue? 8 0 (d :: ds)
    else if mark = 'x' ∨ mark = 'X' then digitsValue? 16 0 (d :: ds)
    else digitsValue? 8 0 (mark :: d :: ds)
  | '0' :: ds => digitsValue? 8 0 ds
  | ds => digitsValue? 10 0 ds

/-- The value of a binary integer after `0b` or an octal one after `0o` whose sign stands behind the
mark of its base. -/
def markedSigned? : List Char → Option Int
  | '0' :: mark :: sign :: d :: ds =>
    let base := if mark = 'b' then some 2 else if mark = 'o' then some 8 else none
    match base.bind (digitsValue? · 0 (d :: ds)) with
    | some n =>
      if sign = '-' then some (-(n : Int)) else if sign = '+' then some (n : Int) else none
    | none => none
  | _ => none

/-- Whether a number fits into 64 bits with a sign. -/
def fitsSigned (n : Int) : Bool := -0x8000000000000000 ≤ n && n < 0x8000000000000000

/-- The value of an integer of 64 bits, with or without a sign. -/
def integer? (cs : List Char) : Option Int :=
  let plain :=
    match cs with
    | '-' :: ds => (unsigned? ds).map fun n => -(n : Int)
    | '+' :: ds => (unsigned? ds).map fun n => (n : Int)
    | ds => (unsigned? ds).map fun n => (n : Int)
  let signed := plain.filter fitsSigned
  let unsigned := (unsigned? cs).filter (· < 0x10000000000000000)
  (signed <|> unsigned.map fun n => (n : Int)) <|> (markedSigned? cs).filter fitsSigned

/-! ## Numbers -/

/-- A decimal number: its digits without the point, and the power of ten that they are multiplied
with. -/
structure Decimal where
  digits : List Char
  exponent : Int

/-- The exponent that the characters after the digits of a number give. -/
def exponent? : List Char → Option Int
  | [] => some 0
  | e :: rest =>
    if e = 'e' ∨ e = 'E' then
      let (negative, ds) := match rest with
        | '-' :: ds => (true, ds)
        | '+' :: ds => (false, ds)
        | ds => (false, ds)
      if ds.isEmpty then none
      else (digitsValue? 10 0 ds).map fun n => if negative then -(n : Int) else n
    else none

/-- The number that the characters are, without a sign. -/
def unsignedDecimal? (cs : List Char) : Option Decimal :=
  let whole := cs.takeWhile Char.isDigit
  match cs.dropWhile Char.isDigit with
  | '.' :: rest =>
    let fraction := rest.takeWhile Char.isDigit
    if whole.isEmpty && fraction.isEmpty then none
    else (exponent? (rest.dropWhile Char.isDigit)).map
      fun e => ⟨whole ++ fraction, e - fraction.length⟩
  | rest => if whole.isEmpty then none else (exponent? rest).map fun e => ⟨whole, e⟩

/-- The least number that is too large to be rounded to a finite one of 64 bits. -/
def overflow : Nat := Nat.pow 2 1024 - Nat.pow 2 970

/-- Whether a number is small enough to be finite in 64 bits.  The power of ten of the first digit
decides, except next to the limit itself. -/
def Decimal.isFinite (d : Decimal) : Bool :=
  let digits := d.digits.dropWhile (· = '0')
  let magnitude : Int := digits.length + d.exponent
  if digits.isEmpty || magnitude < 309 then true
  else if magnitude > 309 then false
  else
    match digitsValue? 10 0 digits with
    | some n =>
      if d.exponent < 0 then n < overflow * Nat.pow 10 d.exponent.natAbs
      else n * Nat.pow 10 d.exponent.natAbs < overflow
    | none => false

/-- Whether the characters are a number, with or without a sign. -/
def isFloat (cs : List Char) : Bool :=
  let body := match cs with
    | '-' :: ds => ds
    | '+' :: ds => ds
    | ds => ds
  (unsignedDecimal? body).any Decimal.isFinite

/-- Whether every underscore stands between two digits. -/
def dividesDigits : List Char → Bool
  | a :: '_' :: b :: rest => a.isDigit && b.isDigit && dividesDigits (b :: rest)
  | '_' :: _ => false
  | _ :: rest => rest ≠ ['_'] && dividesDigits rest
  | [] => true

/-! ## Tags -/

/-- What text is read as when nothing else says so; `dated` allows dates. -/
def resolve (dated : Bool) (text : String) : Tag :=
  if ["", "~", "null", "Null", "NULL"].contains text then .null
  else if ["true", "True", "TRUE", "false", "False", "FALSE"].contains text then .bool
  else if [".nan", ".NaN", ".NAN", ".inf", ".Inf", ".INF", "+.inf", "+.Inf", "+.INF",
    "-.inf", "-.Inf", "-.INF"].contains text then .float
  else
    let cs := text.toList
    let bare := cs.filter (· ≠ '_')
    match cs with
    | [] => .null
    | first :: _ =>
      if first = '.' then (if dividesDigits cs && isFloat bare then .float else .str)
      else if first.isDigit || first = '+' || first = '-' then
        if dated && isTimestamp cs then .timestamp
        else if (integer? bare).isSome then .int
        else if isFloat bare then .float
        else .str
      else .str

/-- What a plain scalar with the given text is read as. -/
def tagOf (text : String) : Tag := resolve true text

/-- The words that older readers take for truth values. -/
def oldTruthWords : List String :=
  ["y", "Y", "yes", "Yes", "YES", "on", "On", "ON", "n", "N", "no", "No", "NO", "off", "Off",
   "OFF"]

end Yaml

end Stepwise
