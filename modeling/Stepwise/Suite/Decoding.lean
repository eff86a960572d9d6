import Stepwise.Files.Fault
import Stepwise.Suite.Misfit
import Stepwise.Yaml.Base64
import Stepwise.Yaml.Construct

/-!
# Decoding suites

A suite is a document that holds a sequence of maps, one for each case.  Keys that no case has are
passed over, a missing value is empty, and a missing item is no case.  A map may borrow entries from
other maps under the key `<<`; its own entries come first, and an earlier map before a later one.

What does not fit is collected and the rest goes on; a scalar that is not what its tag says ends the
decoding.  So does a document of which nearly all comes from aliases, since a short one could make
the work as long as it likes.
-/

namespace Stepwise

namespace Suite

/-- What decoding has come across. -/
structure Ledger where
  /-- What does not fit. -/
  misfits : List Misfit
  /-- The number of nodes that have been visited. -/
  visits : Nat
  /-- The number of those that were visited through an alias. -/
  aliased : Nat

/-- Whether too many nodes are visited through aliases: of the first 400 000 visits not more than
99 of 100 may be, and of four million not more than one in ten, with a straight line in between.
A document with few visits is spared. -/
def Ledger.isExcessive (l : Ledger) : Bool :=
  let low := 400000
  let high := 4000000
  l.aliased > 100 && l.visits > 1000 &&
    (if l.visits ≤ low then 99 * l.visits < 100 * l.aliased
     else if high ≤ l.visits then l.visits < 10 * l.aliased
     else (99 * (high - low) - 89 * (l.visits - low)) * l.visits < 100 * (high - low) * l.aliased)

/-- Decoding keeps a ledger and ends at a fault. -/
abbrev Decoding := StateT Ledger (Except Yaml.Fault)

namespace Decoding

/-- Notes misfits. -/
def note (misfits : List Misfit) : Decoding Unit :=
  modify fun l => { l with misfits := l.misfits ++ misfits }

/-- Notes misfits and gives nothing. -/
def refuse {α : Type} (misfits : List Misfit) : Decoding (Option α) := do
  note misfits
  return none

/-- Ends with a problem. -/
def fail {α : Type} (problem : Yaml.Problem) : Decoding α :=
  throw (Yaml.Fault.ofProblem problem)

/-- Counts a visit that `depth` aliases lead to. -/
def visit (depth : Nat) : Decoding Unit := do
  let l ← get
  let l := { l with
    visits := l.visits + 1
    aliased := if depth = 0 then l.aliased else l.aliased + 1 }
  if l.isExcessive then fail .tooManyAliases
  set l

end Decoding

/-! ## Strings -/

/-- Whether text that reads as `found` is what the tag `wanted` says. -/
def fits (found wanted : Yaml.Tag) (text : String) : Bool :=
  found = wanted ||
    (wanted = .float && found = .int &&
      (Yaml.integer? (text.toList.filter (· ≠ '_'))).any Yaml.fitsSigned)

/-- The string that a scalar is; null is none. -/
def scalarString (tag : Yaml.Tag) (text : String) : Decoding (Option Text) :=
  match tag with
  | .null | .bool | .int | .float | .timestamp =>
    let found := Yaml.resolve (tag = .timestamp) text
    if fits found tag text then return if tag = .null then none else some (Text.ofString text)
    else Decoding.fail (.undecodable found text tag)
  | .binary =>
    match Yaml.base64? text with
    | some text => return some text
    | none => Decoding.fail .badBinary
  | _ => return some (Text.ofString text)

/-- Refuses a map.  Keys that it repeats come first. -/
def refuseMap {α : Type} (line : Nat) (tag : Yaml.Tag) (entries : List (Yaml.Node × Yaml.Node))
    (target : Target) : Decoding (Option α) :=
  match repeatedKeys entries with
  | [] => Decoding.refuse [.node (line + 1) tag "" target]
  | misfits => Decoding.refuse misfits

/-- The string that a node is, to which `depth` aliases lead; null is none. -/
def string (depth : Nat) : Yaml.Node → Decoding (Option Text)
  | .scalar _ tag text => do
    Decoding.visit depth
    scalarString tag text
  | .seq line tag _ => do
    Decoding.visit depth
    Decoding.refuse [.node (line + 1) tag "" .string]
  | .map line tag entries => do
    Decoding.visit depth
    refuseMap line tag entries .string
  | .reference _ _ target => do
    Decoding.visit depth
    string (depth + 1) target
  | .within _ _ _ line tag => do
    Decoding.visit depth
    Decoding.visit (depth + 1)
    Decoding.refuse [.node (line + 1) tag "" .string]

/-! ## Cases -/

/-- Whether a key lends the entries of its value to the map around it. -/
def isMerge : Yaml.Node → Bool
  | .scalar _ tag text => tag = .merge && text = "<<"
  | _ => false

/-- A case that is being put together, with the parts that have been given. -/
structure Filling where
  case : Case
  given : List Case.Field

/-- Takes one entry of a map into a case.  Of keys that are given more than once the first counts;
in the map of the case itself (`own`) a second one does not fit. -/
def addEntry (own : Bool) (depth : Nat) (f : Filling) (entry : Yaml.Node × Yaml.Node) :
    Decoding Filling := do
  if isMerge entry.1 then return f
  match (← string depth entry.1).bind Case.Field.ofKey? with
  | none => return f
  | some field =>
    if f.given.contains field then
      if own then Decoding.note [.repeatedField (entry.1.line + 1) field]
      return f
    let given := field :: f.given
    match ← string depth entry.2 with
    | none => return ⟨f.case, given⟩
    | some value => return ⟨f.case.set field value, given⟩

/-- Visits a key once more, to know which keys have been given. -/
def revisitKey (depth : Nat) : Yaml.Node → Decoding Unit
  | .reference _ _ target => do
    Decoding.visit depth
    revisitKey (depth + 1) target
  | _ => Decoding.visit depth

mutual

/-- Takes a map that makes up a case, or a part of one, into it. -/
def takeMap (own : Bool) (depth : Nat) (f : Filling) : Yaml.Node → Decoding Filling
  | .map _ _ entries => do
    Decoding.visit depth
    match repeatedKeys entries with
    | [] =>
      let f ← entries.foldlM (addEntry own depth) f
      if own && entries.any (isMerge ·.1) then entries.forM (revisitKey depth ·.1)
      takeMerged depth f entries
    | misfits => do
      Decoding.note misfits
      return f
  | .reference _ _ target => do
    Decoding.visit depth
    takeMap own (depth + 1) f target
  | .within _ name .map _ _ => Decoding.fail (.cyclicAnchor name)
  | _ => Decoding.fail .notMergeable

/-- Takes the maps from which the entries of a map borrow. -/
def takeMerged (depth : Nat) (f : Filling) : List (Yaml.Node × Yaml.Node) → Decoding Filling
  | [] => return f
  | (key, value) :: rest =>
    if isMerge key then
      match value with
      | .seq _ _ items => takeListed depth f items
      | value => takeMap false depth f value
    else takeMerged depth f rest

/-- Takes listed maps. -/
def takeListed (depth : Nat) (f : Filling) : List Yaml.Node → Decoding Filling
  | [] => return f
  | item :: rest => do
    let f ← takeMap false depth f item
    takeListed depth f rest

end

/-- The case that an item of a suite is, if it is one. -/
def caseOf (depth : Nat) : Yaml.Node → Decoding (Option Case)
  | .scalar line tag text => do
    Decoding.visit depth
    match ← scalarString tag text with
    | none => return none
    | some _ => Decoding.refuse [.node (line + 1) tag text .case]
  | .seq line tag _ => do
    Decoding.visit depth
    Decoding.refuse [.node (line + 1) tag "" .case]
  | .map line tag entries => do
    let f ← takeMap true depth ⟨.blank, []⟩ (.map line tag entries)
    return some f.case
  | .reference _ _ target => do
    Decoding.visit depth
    caseOf (depth + 1) target
  | .within _ _ _ line tag => do
    Decoding.visit depth
    Decoding.visit (depth + 1)
    Decoding.refuse [.node (line + 1) tag "" .case]

/-- The cases of a suite. -/
def cases : Yaml.Node → Decoding (List Case)
  | .scalar line tag text => do
    match ← scalarString tag text with
    | none => return []
    | some _ =>
      Decoding.note [.node (line + 1) tag text .suite]
      return []
  | .seq _ _ items => do
    Decoding.visit 0
    let found ← items.mapM (caseOf 0)
    return found.filterMap id
  | .map line tag entries => do
    let refused ← refuseMap line tag entries .suite
    return refused.getD []
  | .reference _ _ target => cases target
  | .within _ _ _ _ _ => return []

/-! ## Loading -/

/-- Why a suite could not be loaded. -/
inductive LoadFault where
  | unreadable (fault : FileFault)
  | malformed (path : String) (fault : Yaml.Fault)
  | misfit (path : String) (misfits : List Misfit)

/-- The wording of a fault in loading. -/
def LoadFault.message : LoadFault → Text
  | unreadable fault => Text.ofString "reading cases: " ++ fault.message
  | malformed path fault => Text.ofString ("decoding " ++ path ++ ": " ++ fault.message)
  | misfit path misfits =>
    Text.ofString ("decoding " ++ path ++ ": yaml: unmarshal errors:") ++
      misfits.flatMap Misfit.message

/-- The cases of the suite that a document holds, with all that does not fit in it. -/
def decode (source : Text) : Except Yaml.Fault (List Case × List Misfit) := do
  match ← Yaml.Node.ofText? source with
  | none => return ([], [])
  | some node =>
    let (cases, ledger) ← (cases node).run ⟨[], 1, 0⟩
    return (cases, ledger.misfits)

/-- The cases of the suite at a path, whose content `source` is. -/
def load (path : String) (source : Except FileFault Text) : Except LoadFault (List Case) :=
  match source with
  | .error fault => .error (.unreadable fault)
  | .ok source =>
    match decode source with
    | .error fault => .error (.malformed path fault)
    | .ok (cases, []) => .ok cases
    | .ok (_, misfits) => .error (.misfit path misfits)

end Suite

end Stepwise
