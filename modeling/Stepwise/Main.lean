import Stepwise.CommandLine.Run
import Stepwise.Suite.Run

/-!
# The programs

One executable serves both programs: called by the name `gentests` it is the generator of golden
cases, otherwise the command line on terms.  All that is decided is decided elsewhere; here the
files and the standard streams are read and written.
-/

namespace Stepwise

/-- All that is left of a stream. -/
partial def readRest (stream : IO.FS.Stream) (before : ByteArray) : IO ByteArray := do
  let chunk ← stream.read 4096
  if chunk.isEmpty then return before
  readRest stream (before ++ chunk)

/-- The reason that the system gives for a failure. -/
def reasonOf (e : IO.Error) : FileReason :=
  match e with
  | .noFileOrDirectory _ _ _ => .missing
  | .inappropriateType _ code _ => if code = 21 then .isFolder else .notFolder
  | .invalidArgument _ _ _ => .badName
  | _ => .nameTooLong

/-- Whether a path leads to a folder. -/
def isFolder (path : String) : IO Bool := do
  if path = "" then return false
  try
    return ← (← IO.FS.realPath path).isDir
  catch _ => return false

/-- The content of a file. -/
def readPath (path : String) : IO (Except FileFault Text) := do
  if ← isFolder path then return .error ⟨.readFile, Text.ofString path, .isFolder⟩
  try
    return .ok (Text.ofBytes (← IO.FS.readBinFile path).toList)
  catch e => return .error ⟨.openFile, Text.ofString path, reasonOf e⟩

/-- Makes a change to the files of the system. -/
def makeChange : Suite.Change → IO (Option FileFault)
  | .makeFolder path => do
    if ← isFolder path.shown then return none
    try
      IO.FS.createDir path.shown
      return none
    catch e =>
      match e with
      | .alreadyExists _ _ _ => return some ⟨.makeFolder, path, .notFolder⟩
      | e => return some ⟨.makeFolder, path, reasonOf e⟩
  | .write path content => do
    if ← isFolder path.shown then return some ⟨.openFile, path, .isFolder⟩
    try
      IO.FS.writeBinFile path.shown content.toUTF8
      return none
    catch e => return some ⟨.openFile, path, reasonOf e⟩

/-- The files of the system. -/
def systemDisk : Suite.Disk IO := ⟨readPath, makeChange⟩

/-- Writes what a run reports and gives its exit code. -/
def publish (r : Report) : IO UInt32 := do
  (← IO.getStdout).putStr r.stdout
  (← IO.getStderr).putStr r.stderr
  return UInt32.ofNat r.exit

/-- The command line on terms.  Only what the arguments can refer to is read. -/
def runCommandLine (args : List String) : IO UInt32 := do
  let mut stdin : Text := []
  let mut files : List (String × Except FileFault Text) := []
  for arg in args do
    match arg.toList with
    | ['-'] =>
      if stdin.isEmpty then stdin := Text.ofBytes (← readRest (← IO.getStdin) .empty).toList
    | '@' :: path => files := (String.ofList path, ← readPath (String.ofList path)) :: files
    | _ => pure ()
  let file path := (files.lookup path).getD (.error ⟨.openFile, Text.ofString path, .missing⟩)
  publish (CommandLine.run args ⟨stdin, file⟩)

/-- The generator of golden cases. -/
def runSuite (args : List String) : IO UInt32 := do publish (← systemDisk.generate args)

end Stepwise

def main (args : List String) : IO UInt32 := do
  if (← IO.appPath).fileName = some "gentests" then Stepwise.runSuite args
  else Stepwise.runCommandLine args
