import Stepwise.CommandLine.Command
import Stepwise.Files.Fault
import Stepwise.Grammar.Cursor
import Stepwise.Term.Canonical
import Stepwise.Term.Step
import Stepwise.Yaml.Document

/-!
# Tasks

A task is a command together with its arguments.  Its terms are given as arguments at first: `-`
stands for the standard input, `@path` for a file, and anything else is the source itself.
`Task.read` reads them from left to right and stops at the first that fails; `Task.perform` does the
work on the terms.
-/

namespace Stepwise

namespace CommandLine

/-- Why a call has no result. -/
inductive Failure where
  /-- The flags are wrong. -/
  | flags (fault : FlagFault)
  /-- No command has the name. -/
  | unknownCommand (word : String)
  /-- The command takes another number of arguments. -/
  | argumentCount (wanted received : Nat)
  /-- No log level has the name. -/
  | logLevel (name : String)
  /-- A file cannot be read. -/
  | unreadable (fault : FileFault)
  /-- A source is no term. -/
  | malformed (source : Text) (error : SyntaxError)
  /-- A step of the strategy asked for by this name is stuck. -/
  | stuck (strategy : String) (application : Stuck)
  /-- The replacement of a substitution has this failure. -/
  | replacement (failure : Failure)

namespace Failure

/-- What is suggested in the place of a word that names no command. -/
def suggestionText (word : String) : String :=
  match suggestions word with
  | [] => ""
  | words =>
    "\n\nDid you mean this?\n" ++ String.join (words.map fun w => "\t" ++ w ++ "\n")

/-- The innermost cause of a failure. -/
def cause : Failure → String
  | flags fault => fault.message
  | unknownCommand word =>
    "unknown command " ++ quoted word ++ " for " ++ quoted programName ++ suggestionText word
  | argumentCount wanted received =>
    "accepts " ++ toString wanted ++ " arg(s), received " ++ toString received
  | logLevel name => "not a valid logrus Level: " ++ quoted name
  | unreadable fault => fault.message.shown
  | malformed _ error => error.message
  | stuck _ application => application.message
  | replacement failure => failure.cause

/-- What was being done when the cause arose, outermost first. -/
def context : Failure → List String
  | flags _ | unknownCommand _ | argumentCount _ _ => []
  | logLevel name => ["parsing log level " ++ quoted name]
  | unreadable _ => ["reading term"]
  | malformed source _ => ["parsing " ++ source.trim.quoted]
  | stuck strategy _ => [strategy ++ " step"]
  | replacement failure => "replacement" :: failure.context

/-- A failure on one line: what was being done, then the cause. -/
def message (f : Failure) : String := ": ".intercalate (f.context ++ [f.cause])

/-- A failure on several lines: the cause, then what was being done, innermost first.  The lines
under each of these that say where in the program it was noticed are left out. -/
def trace (f : Failure) : String := "\n".intercalate (f.cause :: f.context.reverse)

end Failure

/-- A command with its arguments; terms have the type `α`. -/
inductive Task (α : Type) where
  | display (term : α)
  | freeNames (term : α)
  | substitute (term : α) (name : String) (replacement : α)
  | step (strategy : NamedStrategy) (term : α)
  | canonical (term : α)
  | compare (left right : α)

/-! ## Reading the terms -/

/-- What a call can read from.  A file may fail to be read, but the standard input never does; that
reading it might break off is left out. -/
structure Sources where
  /-- What is left of the standard input. -/
  stdin : Text
  /-- The files by their paths. -/
  file : String → Except FileFault Text

/-- What reading has used up and brought: the sources as they are then, and the terms read so far,
last first. -/
structure Desk where
  sources : Sources
  terms : List Term

/-- An action that reads terms. -/
abbrev Reading := ExceptT Failure (StateM Desk)

/-- The source that an argument stands for.  The standard input can be taken once, always as a
whole, and is empty from then on. -/
def takeSource (arg : String) : Reading Text := do
  let desk ← get
  if arg = "-" then
    set { desk with sources := { desk.sources with stdin := [] } }
    return desk.sources.stdin
  else
    match arg.toList with
    | '@' :: path =>
      match desk.sources.file (String.ofList path) with
      | .ok source => return source
      | .error fault => throw (.unreadable fault)
    | _ => return Text.ofString arg

/-- Reads the term that an argument stands for. -/
def readTerm (arg : String) : Reading Term := do
  let source ← takeSource arg
  match Term.parseChars source.chars with
  | .ok t =>
    modify fun desk => { desk with terms := t :: desk.terms }
    return t
  | .error e => throw (.malformed source e)

/-- Reads the terms of a task from left to right. -/
def Task.read : Task String → Reading (Task Term)
  | display term => return .display (← readTerm term)
  | freeNames term => return .freeNames (← readTerm term)
  | substitute term name replacement => do
    let t ← readTerm term
    return .substitute t name (← (readTerm replacement).adapt .replacement)
  | step strategy term => return .step strategy (← readTerm term)
  | canonical term => return .canonical (← readTerm term)
  | compare left right => do
    let l ← readTerm left
    return .compare l (← readTerm right)

/-! ## Doing the work -/

/-- A line for the log: a message with named values. -/
structure Note where
  message : String
  fields : List (String × String)

/-- The result of a task, as text and as a document, and what is to be logged about it. -/
structure Result where
  text : String
  document : Yaml.Document
  notes : List Note

/-- The names without later repetitions. -/
def distinct (names : List String) : List String :=
  names.foldl (fun seen name => if seen.contains name then seen else seen ++ [name]) []

/-- The result that is a single term. -/
def Result.ofTerm (t : Term) : Result := ⟨t.text, [("term", .string t.text)], []⟩

/-- Does the work of a task. -/
def Task.perform : Task Term → Except Failure Result
  | display term => .ok (.ofTerm term)
  | freeNames term =>
    let free := distinct term.freeNames
    .ok ⟨"\n".intercalate free, [("term", .string term.text), ("free", .list free)], []⟩
  | substitute term name replacement => .ok (.ofTerm (term.subst name replacement))
  | step strategy term =>
    match strategy.strategy.step term with
    | .error stuck => .error (.stuck strategy.name stuck)
    | .ok after =>
      let note : Note := ⟨"reduced one step", [("size_in", toString term.size),
        ("size_out", toString after.size), ("strategy", strategy.name)]⟩
      .ok ⟨after.text, [("strategy", .string strategy.name), ("input", .string term.text),
        ("output", .string after.text)], [note]⟩
  | canonical term => .ok (.ofTerm term.canonical)
  | compare left right =>
    let same := left.sameCanonical right
    .ok ⟨if same then "true" else "false", [("left", .string left.text),
      ("right", .string right.text), ("equivalent", .bool same)], []⟩

end CommandLine

end Stepwise
