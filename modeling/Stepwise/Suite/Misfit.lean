import Stepwise.Suite.Case
import Stepwise.Text.Octets
import Stepwise.Text.Quoted
import Stepwise.Yaml.Node

/-!
# What does not fit in a suite

A document of another shape than a suite is refused with all that does not fit in it.  Each misfit
names its line, counted from one.
-/

namespace Stepwise

namespace Suite

/-- What a part of a document is wanted for. -/
inductive Target where
  | suite
  | case
  | string
deriving DecidableEq

/-- The name of a target in messages. -/
def Target.name : Target → String
  | suite => "[]main.TestCase"
  | case => "main.TestCase"
  | string => "string"

/-- Something in a document that does not fit. -/
inductive Misfit where
  /-- A key that stands in the same map already. -/
  | repeatedKey (line : Nat) (key : String) (earlier : Nat)
  /-- A part of a case that another spelling of its key has given already. -/
  | repeatedField (line : Nat) (field : Case.Field)
  /-- A node where something else is wanted.  Only a scalar has text. -/
  | node (line : Nat) (tag : Yaml.Tag) (text : String) (target : Target)
deriving DecidableEq

namespace Misfit

/-- The text of a scalar as a message shows it: of more than ten octets only the first seven. -/
def excerpt (text : String) : Text :=
  let bytes := text.toList.flatMap octets
  if bytes.length > 10 then
    Text.ofBytes ((bytes.take 7).map UInt8.ofNat) ++ Text.ofString "..."
  else Text.ofString text

/-- The text of a node behind its tag.  With the tag of a sequence or a map it stands bare. -/
def shownText (tag : Yaml.Tag) (text : String) : Text :=
  if tag = .seq ∨ tag = .map then Text.ofString text
  else Text.ofString " \x60" ++ excerpt text ++ Text.ofString "\x60"

/-- The wording of a misfit, on a line of its own. -/
def message : Misfit → Text
  | repeatedKey line key earlier =>
    Text.ofString ("\n  line " ++ toString line ++ ": mapping key " ++ quoted key ++
      " already defined at line " ++ toString earlier)
  | repeatedField line field =>
    Text.ofString ("\n  line " ++ toString line ++ ": field " ++ field.key ++
      " already set in type " ++ Target.name .case)
  | node line tag text target =>
    Text.ofString ("\n  line " ++ toString line ++ ": cannot unmarshal ") ++ tag.name ++
      shownText tag text ++ Text.ofString (" into " ++ target.name)

end Misfit

/-! ## Repeated keys -/

/-- What tells keys apart: scalars by their text, aliases by the name.  All sequences count as the
same key, and so do all maps. -/
inductive KeyForm where
  | scalar (text : String)
  | reference (name : String)
  | collection (shape : Yaml.Shape)
deriving DecidableEq

/-- What tells a key apart. -/
def KeyForm.ofNode : Yaml.Node → KeyForm
  | .scalar _ _ text => .scalar text
  | .seq _ _ _ => .collection .seq
  | .map _ _ _ => .collection .map
  | .reference _ name _ | .within _ name _ _ _ => .reference name

/-- The text that a message shows of a key. -/
def KeyForm.text : KeyForm → String
  | scalar text => text
  | reference name => name
  | collection _ => ""

/-- The repeated keys among keys with their lines, each with every later one that is the same. -/
def repeatedForms : List (Nat × KeyForm) → List Misfit
  | [] => []
  | (line, key) :: rest =>
    (rest.filter (·.2 = key)).map (fun (later, _) => .repeatedKey later key.text line) ++
      repeatedForms rest

/-- The keys that the entries of a map repeat. -/
def repeatedKeys (entries : List (Yaml.Node × Yaml.Node)) : List Misfit :=
  repeatedForms (entries.map fun (key, _) => (key.line + 1, .ofNode key))

end Suite

end Stepwise
