import Stepwise.CommandLine.Help
import Stepwise.CommandLine.Task
import Stepwise.Program.Report

/-!
# Running the command line

`interpret` finds out what the arguments ask for: the command first, then its flags, then whether
help was asked for, then the number of arguments, and the log level last.  `run` does it and reports
what is written where and with which exit code.  Whatever is written is taken: that writing itself
might fail, as on an output that is closed, is left out.
-/

namespace Stepwise

namespace CommandLine

/-- What the arguments ask for. -/
inductive Request where
  /-- Print a help page. -/
  | page (page : Page)
  /-- Complain that there is no help on the topic. -/
  | noTopic (words : List String)
  /-- Do a task and write its result in the given format. -/
  | task (level : LogLevel) (format : Format) (task : Task String)

/-- The level of the log when none is chosen. -/
def defaultLevel : LogLevel := .info

/-- The log level that the options choose; the empty name chooses none. -/
def chosenLevel (name : String) : Except Failure LogLevel :=
  if name = "" then .ok defaultLevel
  else
    match LogLevel.ofName? name with
    | some level => .ok level
    | none => .error (.logLevel name)

/-- What is left to decide about a command once the log level is known: a task, or nothing for the
commands that only print. -/
def taskOf (c : Command) (options : Options) (args : List String) :
    Except Failure (Option (Task String)) :=
  match c, args with
  | .display, [t] => .ok (some (.display t))
  | .freeNames, [t] => .ok (some (.freeNames t))
  | .substitute, [t, name, r] => .ok (some (.substitute t name r))
  | .step, [t] => .ok (some (.step options.strategy t))
  | .canonical, [t] => .ok (some (.canonical t))
  | .compare, [l, r] => .ok (some (.compare l r))
  | .help, _ | .completion, _ => .ok none
  | .substitute, args => .error (.argumentCount 3 args.length)
  | .compare, args => .error (.argumentCount 2 args.length)
  | _, args => .error (.argumentCount 1 args.length)

/-- Reads the flags among the arguments. -/
def readFlags (flags : List (Flag Setting)) (args : List String) :
    Except Failure (Options × List String) :=
  match Flag.parse flags args with
  | .ok (settings, plain) => .ok (Options.ofSettings settings, plain)
  | .error fault => .error (.flags fault)

/-- What the arguments ask for, or the first thing that is wrong with them. -/
def interpret (args : List String) : Except Failure Request := do
  match findCommand args with
  | .error word => throw (.unknownCommand word)
  | .ok (none, args) =>
    let (options, _) ← readFlags programFlags args
    if options.help then return .page (programPage true)
    let _ ← chosenLevel options.logLevel
    return .page (programPage true)
  | .ok (some c, args) =>
    let (options, plain) ← readFlags c.flags args
    if options.help || c = .completion then return .page c.page
    let task ← taskOf c options plain
    let level ← chosenLevel options.logLevel
    match task with
    | some task => return .task level options.format task
    | none =>
      match topicPage? plain with
      | some page => return .page page
      | none => return .noTopic plain

/-- The report of a failure after the given lines of the log. -/
def Failure.report (f : Failure) (level : LogLevel) (log : String) : Report :=
  ⟨1, "", log ++ "Error: " ++ (if level = .trace then f.trace else f.message) ++ "\n"⟩

/-- The line of the log that a note makes, without the times that `LogLine` leaves out and without
the time that the step took. -/
def Note.line (n : Note) : String :=
  LogLine.render "debug" (Text.ofString n.message)
    (n.fields.map fun (name, value) => (name, Text.ofString value))

/-- The note about a term that was read. -/
def parsedNote (t : Term) : Note := ⟨"parsed term", [("term", t.text)]⟩

/-- The lines of the log that the notes make at the given level. -/
def logText (level : LogLevel) (notes : List Note) : String :=
  if level.showsDebug then String.join (notes.map Note.line) else ""

/-- The written form of a result. -/
def Result.render (r : Result) : Format → String
  | .text => r.text ++ "\n"
  | .yaml => r.document.render

/-- Reads the terms of a task, does its work and reports. -/
def Task.report (task : Task String) (level : LogLevel) (format : Format) (sources : Sources) :
    Report :=
  let (read, desk) := task.read.run.run ⟨sources, []⟩
  let notes := desk.terms.reverse.map parsedNote
  match read with
  | .error failure => failure.report level (logText level notes)
  | .ok task =>
    match task.perform with
    | .error failure => failure.report level (logText level notes)
    | .ok result => ⟨0, result.render format, logText level (notes ++ result.notes)⟩

/-- What the program does when it is called with the given arguments. -/
def run (args : List String) (sources : Sources) : Report :=
  match interpret args with
  | .error failure => failure.report defaultLevel ""
  | .ok (.page page) => ⟨0, page.text, ""⟩
  | .ok (.noTopic words) => ⟨0, "", unknownTopic words⟩
  | .ok (.task level format task) => task.report level format sources

end CommandLine

end Stepwise
