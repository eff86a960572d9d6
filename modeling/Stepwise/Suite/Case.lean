import Stepwise.Text.Glyph

/-!
# Golden cases

A golden case of a single step: a name, a strategy, an input, and the expected output.  A case
without an output expects the step to be stuck.  Nothing promises that what a suite gives is
well-formed text.
-/

namespace Stepwise

/-- A golden case of a single step. -/
structure Case where
  name : Text
  strategy : Text
  input : Text
  output : Text
deriving DecidableEq

namespace Case

/-- The case of which nothing is given. -/
def blank : Case := ⟨[], [], [], []⟩

/-- A part of a case that a suite gives under a key of its own. -/
inductive Field where
  | name
  | strategy
  | input
  | output
deriving DecidableEq

/-- The key of a part of a case. -/
def Field.key : Field → String
  | name => "name"
  | strategy => "strategy"
  | input => "input"
  | output => "output"

/-- The part of a case with the given key. -/
def Field.ofKey? (key : Text) : Option Field :=
  [name, strategy, input, output].find? fun field => Text.ofString field.key = key

/-- The case with a value for one of its parts. -/
def set (c : Case) (field : Field) (value : Text) : Case :=
  match field with
  | .name => { c with name := value }
  | .strategy => { c with strategy := value }
  | .input => { c with input := value }
  | .output => { c with output := value }

end Case

end Stepwise
