import Stepwise.Text.Quoted
import Stepwise.Yaml.Scalar

/-!
# Documents

The documents that the command line writes: a list of named fields, each a string, a truth value or
a list of strings.  Strings here are names and printed terms, so the only characters that need care
are those beyond U+FFFF and a leading apostrophe.
-/

namespace Stepwise

namespace Yaml

/-- A character between double quotes: beyond U+FFFF it is written by its code, in capitals. -/
def escapeWide (c : Char) : List Char :=
  if c.toNat > 0xFFFF then '\\' :: 'U' :: (hexDigits 8 c.toNat).map Char.toUpper else [c]

/-- A string between double quotes. -/
def doubleQuoted (cs : List Char) : List Char := '"' :: (cs.flatMap escapeWide ++ ['"'])

/-- A string between apostrophes; an apostrophe inside is written twice. -/
def singleQuoted (cs : List Char) : List Char :=
  '\x27' :: (cs.flatMap (fun c => if c = '\x27' then [c, c] else [c]) ++ ['\x27'])

/-- A string as a scalar. -/
def scalar (s : String) : String :=
  let cs := s.toList
  if cs.any (·.toNat > 0xFFFF) then String.ofList (doubleQuoted cs)
  else if tagOf s ≠ .str ∨ oldTruthWords.contains s then String.ofList (doubleQuoted cs)
  else if cs.head? = some '\x27' then String.ofList (singleQuoted cs)
  else s

/-- The value of a field. -/
inductive Value where
  | string (s : String)
  | bool (b : Bool)
  | list (items : List String)

/-- The characters after the name of a field and its colon. -/
def Value.render : Value → String
  | string s => " " ++ scalar s ++ "\n"
  | bool b => if b then " true\n" else " false\n"
  | list [] => " []\n"
  | list items => "\n" ++ String.join (items.map fun s => "  - " ++ scalar s ++ "\n")

/-- A document: fields in the order in which they are written. -/
abbrev Document := List (String × Value)

/-- The text of a document. -/
def Document.render (d : Document) : String :=
  String.join (d.map fun (name, value) => name ++ ":" ++ value.render)

end Yaml

end Stepwise
