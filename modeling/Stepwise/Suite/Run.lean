import Stepwise.Program.Flag
import Stepwise.Program.Log
import Stepwise.Program.Report
import Stepwise.Suite.Script

/-!
# Running the generator

The generator loads a suite and writes every case of it below one folder.  A case that fails is
logged and the others go on; the number of cases written is reported at the end.
-/

namespace Stepwise

namespace Suite

/-- Where the suite is, and the folder below which its cases are written. -/
structure Options where
  cases : String
  out : String

/-- The options when no flag is given. -/
def Options.initial : Options := ⟨"cmd/gentests/cases.yaml", "cmd/gentests/generated"⟩

/-- The effect of one flag on the options. -/
abbrev Setting := Options → Options

/-- `--cases`. -/
def casesFlag : Flag Setting where
  long := "cases"
  short := none
  bare := none
  placeholder := "string"
  description := "YAML file listing the cases (default " ++ quoted Options.initial.cases ++ ")"
  set value := .ok fun o => { o with cases := value }

/-- `--out`. -/
def outFlag : Flag Setting where
  long := "out"
  short := none
  bare := none
  placeholder := "string"
  description :=
    "directory receiving one sub-directory per case (default " ++ quoted Options.initial.out ++ ")"
  set value := .ok fun o => { o with out := value }

/-- The flags of the generator. -/
def flags : List (Flag Setting) := [casesFlag, outFlag]

/-- How the generator is called. -/
def usage : String :=
  "Usage of gentests:\n" ++ String.join ((Flag.usages flags).map (· ++ "\n"))

/-- The report of a fault in the flags.  Asking for help only shows the usage. -/
def flagReport (fault : FlagFault) : Report :=
  let complaint := if fault = .helpAsked then "" else fault.message ++ "\n"
  ⟨2, fault.message ++ "\n", complaint ++ usage⟩

/-- The line of the log about a case that failed. -/
def caseLine (c : Case) (fault : CaseFault) : String :=
  LogLine.render "error" fault.message [("case", c.name)]

/-- The number of cases written so far, and the log. -/
structure Tally where
  written : Nat
  log : String

/-- The tally before any case. -/
def Tally.start : Tally := ⟨0, ""⟩

/-- The tally after one more case, which had the given fault or was written. -/
def Tally.add (t : Tally) (c : Case) : Option CaseFault → Tally
  | none => { t with written := t.written + 1 }
  | some fault => { t with log := t.log ++ caseLine c fault }

section

variable {m : Type → Type} [Monad m] (disk : Disk m)

/-- Writes one more case below the folder `base`. -/
def Disk.addCase (base : Text) (tally : Tally) (c : Case) : m Tally :=
  return tally.add c (← disk.runScript (script base c))

/-- Writes cases one after the other below the folder `base`. -/
def Disk.writeCases (base : Text) (cases : List Case) : m Tally :=
  cases.foldlM (disk.addCase base) .start

end

/-- The outcome of writing cases to a file tree. -/
structure Outcome extends Tally where
  tree : FileTree

/-- Writes cases one after the other below the folder `base` of a file tree. -/
def writeCases (base : Text) (cases : List Case) (tree : FileTree) : Outcome :=
  let (tally, tree) := (Disk.ofTree.writeCases base cases).run tree
  ⟨tally, tree⟩

/-- What is written when `count` cases were written. -/
def summary (count : Nat) : String := "Generated " ++ toString count ++ " tests\n"

/-- The options that the arguments give, or the report that ends the run. -/
def readOptions (args : List String) : Except Report Options :=
  match Flag.parse flags args with
  | .error fault => .error (flagReport fault)
  | .ok (settings, _) => .ok (settings.foldl (fun o setting => setting o) Options.initial)

/-- The cases of the suite at a path, whose content `source` is, or the report that ends the run. -/
def readCases (path : String) (source : Except FileFault Text) : Except Report (List Case) :=
  match load path source with
  | .error fault => .error ⟨1, "", LogLine.render "fatal" fault.message []⟩
  | .ok cases => .ok cases

/-- What the generator does when it is called with the given arguments. -/
def Disk.generate {m : Type → Type} [Monad m] (disk : Disk m) (args : List String) : m Report := do
  match readOptions args with
  | .error report => return report
  | .ok options =>
    match readCases options.cases (← disk.read options.cases) with
    | .error report => return report
    | .ok cases =>
      let tally ← disk.writeCases (Text.ofString options.out) cases
      return ⟨0, summary tally.written, tally.log⟩

/-- What the generator does on a file tree, and the tree after it. -/
def run (args : List String) (tree : FileTree) : Report × FileTree :=
  (Disk.ofTree.generate args).run tree

end Suite

end Stepwise
