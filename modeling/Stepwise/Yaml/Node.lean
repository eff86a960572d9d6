import Stepwise.Yaml.Scalar

/-!
# Nodes of documents

A document holds one node: a scalar, a sequence or a map.  Every node has a tag, its own or the one
that its form or its text gives it.  An alias is the node that bears its name once more; inside that
node only the head of it is known.
-/

namespace Stepwise

namespace Yaml

/-- Whether a node is a sequence or a map. -/
inductive Shape where
  | seq
  | map
deriving DecidableEq

/-- A node with the line on which it starts, counted from zero. -/
inductive Node where
  | scalar (line : Nat) (tag : Tag) (text : String)
  | seq (line : Nat) (tag : Tag) (items : List Node)
  | map (line : Nat) (tag : Tag) (entries : List (Node × Node))
  | reference (line : Nat) (name : String) (target : Node)
  /-- An alias of the node around it, of which the head is given. -/
  | within (line : Nat) (name : String) (shape : Shape) (head : Nat) (tag : Tag)

namespace Node

/-- The node that stands for a missing one. -/
def missing (line : Nat) : Node := .scalar line .null ""

/-- The tag of a scalar that has none of its own. -/
def defaultTag (plain : Bool) (text : String) : Tag :=
  if !plain then .str else if text = "<<" then .merge else tagOf text

/-- The line on which a node starts. -/
def line : Node → Nat
  | scalar line _ _ | seq line _ _ | map line _ _ | reference line _ _ | within line _ _ _ _ => line

end Node

/-! ## Anchors -/

/-- What is known of a node with a name: the node, or its head while it is being read. -/
inductive Known where
  | whole (node : Node)
  | head (shape : Shape) (line : Nat) (tag : Tag)

/-- The nodes with a name, the latest first.  Two nodes may have the same name; the number tells
them apart. -/
abbrev Anchors := List (String × Nat × Known)

namespace Anchors

/-- The node that an alias on the given line stands for, if its name is known. -/
def reference? (anchors : Anchors) (line : Nat) (name : String) : Option Node :=
  (anchors.lookup name).map fun (_, known) =>
    match known with
    | .whole node => .reference line name node
    | .head shape head tag => .within line name shape head tag

/-- Gives a node a name. -/
def add (anchors : Anchors) (name : Option (String × Nat)) (known : Known) : Anchors :=
  match name with
  | none => anchors
  | some (name, number) => (name, number, known) :: anchors

/-- Completes the node with the given name and number. -/
def complete (anchors : Anchors) (name : Option (String × Nat)) (node : Node) : Anchors :=
  match name with
  | none => anchors
  | some (_, number) =>
    anchors.map fun (name, n, known) => (name, n, if n = number then .whole node else known)

end Anchors

end Yaml

end Stepwise
