import Stepwise.Files.Tree
import Stepwise.Grammar.Cursor
import Stepwise.Suite.Decoding
import Stepwise.Term.Strategy

/-!
# Scripts

What is done to the files for a case is a script: a list of changes, and the fault in the case at
which the changes end, if there is one.  A script can be looked at without running it.  Running it
makes the changes one after the other and stops at the first that fails; what was changed before
stays changed.  It runs on a `Disk`, which may be a file tree or the files of the system.

A case is written to a folder of its own: its input and output in printed form, and a test that
checks them.
-/

namespace Stepwise

namespace Suite

/-- A change to the files. -/
inductive Change where
  /-- Make a folder in a folder that is there, unless it is there itself. -/
  | makeFolder (path : Text)
  /-- Give a file a content. -/
  | write (path : Text) (content : String)
deriving DecidableEq

/-- The files after a change. -/
def Change.apply (tree : FileTree) : Change → Except FileFault FileTree
  | makeFolder path => tree.makeFolder path
  | write path content => tree.write path (Text.ofString content)

/-- Why a case is not written, or not in full. -/
inductive CaseFault where
  | unknownStrategy (name : Text)
  | input (error : SyntaxError)
  | output (error : SyntaxError)
  | file (fault : FileFault)
deriving DecidableEq

/-- The wording of a fault in a case. -/
def CaseFault.message : CaseFault → Text
  | unknownStrategy name => Text.ofString (Strategy.unknownMessage name)
  | input error => Text.ofString ("parsing input: " ++ error.message)
  | output error => Text.ofString ("parsing output: " ++ error.message)
  | file fault => fault.message

/-- Changes to make, and the fault that ends them. -/
structure Script where
  changes : List Change
  fault : Option CaseFault
deriving DecidableEq

/-- How files are got at: one of them is read, or one change is made to them. -/
structure Disk (m : Type → Type) where
  /-- The content of the file at a path. -/
  read (path : String) : m (Except FileFault Text)
  /-- Makes a change, or tells why it cannot be made. -/
  change (change : Change) : m (Option FileFault)

namespace Disk

/-- The files are those of a tree. -/
def ofTree : Disk (StateM FileTree) where
  read path tree := (tree.read path, tree)
  change change tree :=
    match change.apply tree with
    | .ok tree => (none, tree)
    | .error fault => (some fault, tree)

variable {m : Type → Type} [Monad m] (disk : Disk m)

/-- Makes changes until one fails. -/
def runChanges : List Change → m (Option FileFault)
  | [] => return none
  | change :: rest => do
    match ← disk.change change with
    | none => runChanges rest
    | some fault => return some fault

/-- Runs a script, and tells what went wrong. -/
def runScript (s : Script) : m (Option CaseFault) := do
  match ← disk.runChanges s.changes with
  | none => return s.fault
  | some fault => return some (.file fault)

end Disk

/-- The files after a script, and what went wrong. -/
def Script.run (s : Script) (tree : FileTree) : FileTree × Option CaseFault :=
  ((Disk.ofTree.runScript s).run tree).swap

/-! ## The test of a case -/

/-- The name with every character replaced by `_` that is no ASCII letter, digit or `_`. -/
def identifier (name : Text) : String :=
  String.ofList (name.chars.map fun c => if c.isAlphanum || c == '_' then c else '_')

/-- The first lines of every test. -/
def testHeading : String :=
  "package gentests\n\nimport _ \"embed\"\nimport \"testing\"\n" ++
  "import \"github.com/vic/lamb/cmd/gentests/helper\"\n\n" ++
  "//go:embed input.lam\nvar input string\n\n"

/-- The test that a case is stuck. -/
def stuckTest (c : Case) : String :=
  testHeading ++
  "func Test_" ++ identifier c.name ++ "_Stuck(t *testing.T) \x7b\n" ++
  "\tgentests.CheckStuck(t, " ++ c.name.quoted ++ ", " ++ c.strategy.quoted ++ ", input)\n\x7d\n"

/-- The test that a case makes a step. -/
def stepTest (c : Case) : String :=
  testHeading ++
  "//go:embed output.lam\nvar output string\n\n" ++
  "func Test_" ++ identifier c.name ++ "_Step(t *testing.T) \x7b\n" ++
  "\tgentests.CheckStep(t, " ++ c.name.quoted ++ ", " ++ c.strategy.quoted ++
  ", input, output)\n\x7d\n"

/-! ## The script of a case -/

/-- The file that holds the input of a case. -/
def inputFile : Text := Text.ofString "input.lam"

/-- The file that holds the output of a case. -/
def outputFile : Text := Text.ofString "output.lam"

/-- The file that holds the test of a case. -/
def testFile : Text := Text.ofString "reduction_test.go"

/-- What is done below the folder `base` for a case.  The strategy and the input are looked at
before anything is changed, the output only after the input has been written. -/
def script (base : Text) (c : Case) : Script :=
  match Strategy.ofName? c.strategy.shown, Term.parseChars c.input.chars with
  | none, _ => ⟨[], some (.unknownStrategy c.strategy)⟩
  | some _, .error error => ⟨[], some (.input error)⟩
  | some _, .ok input =>
    let folder := Path.join base c.name
    let start := (Path.way folder).map .makeFolder ++
      [.write (Path.join folder inputFile) input.text]
    if c.output.isEmpty then
      ⟨start ++ [.write (Path.join folder testFile) (stuckTest c)], none⟩
    else
      match Term.parseChars c.output.chars with
      | .error error => ⟨start, some (.output error)⟩
      | .ok output =>
        ⟨start ++ [.write (Path.join folder outputFile) output.text,
          .write (Path.join folder testFile) (stepTest c)], none⟩

/-- Writes a case below the folder `base`. -/
def writeCase (base : Text) (c : Case) (tree : FileTree) : FileTree × Option CaseFault :=
  (script base c).run tree

end Suite

end Stepwise
