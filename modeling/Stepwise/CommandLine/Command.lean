import Stepwise.CommandLine.Options
import Stepwise.Program.Suggestion

/-!
# Commands

The commands of the command line and how the word that names one is found among the arguments.

While the word is looked for, flags have not been read yet: a flag without `=` is taken to have the
next argument as its value, whichever flag it is.
-/

namespace Stepwise

namespace CommandLine

/-- The program's name. -/
def programName : String := "lamb"

/-- A command. -/
inductive Command where
  | display
  | freeNames
  | substitute
  | step
  | canonical
  | compare
  | help
  | completion
deriving DecidableEq

namespace Command

/-- All commands, in the order in which they are suggested. -/
def all : List Command :=
  [display, freeNames, substitute, step, canonical, compare, help, completion]

/-- The word that names the command. -/
def word : Command → String
  | display => "show"
  | freeNames => "free"
  | substitute => "subst"
  | step => "step"
  | canonical => "reify"
  | compare => "alpha"
  | help => "help"
  | completion => "completion"

/-- The command that a word names. -/
def ofWord? (word : String) : Option Command := all.find? (·.word = word)

/-- The flags that only this command has. -/
def ownFlags : Command → List (Flag Setting)
  | step => [strategyFlag]
  | _ => []

/-- The flags that can be given to the command. -/
def flags (c : Command) : List (Flag Setting) := helpFlag c.word :: (c.ownFlags ++ globalFlags)

end Command

/-! ## Finding the command -/

/-- Whether an argument is taken to be a flag with the next argument as its value. -/
def takesNext (arg : String) : Bool :=
  match arg.toList with
  | '-' :: '-' :: rest => !rest.contains '='
  | ['-', c] => c != '=' && c.toNat < 0x80
  | _ => false

/-- The arguments that are neither flags nor taken to be their values. -/
def commandWords : List String → List String
  | [] => []
  | arg :: rest =>
    if arg = "--" then []
    else if takesNext arg then
      match rest with
      | [] => []
      | _ :: rest => if rest.isEmpty then [] else commandWords rest
    else if arg = "" ∨ arg.toList.head? = some '-' then commandWords rest
    else arg :: commandWords rest

/-- The arguments without the first one that is `word` and is not taken to be the value of a
flag. -/
def withoutWord (word : String) : List String → List String
  | [] => []
  | arg :: rest =>
    if arg = "--" then arg :: rest
    else if takesNext arg then
      match rest with
      | [] => [arg]
      | value :: rest => arg :: value :: withoutWord word rest
    else if arg = word then rest
    else arg :: withoutWord word rest

/-- The command that the arguments name, if any, and the other arguments; or the word that names no
command. -/
def findCommand (args : List String) : Except String (Option Command × List String) :=
  match commandWords args with
  | [] => .ok (none, args)
  | word :: _ =>
    match Command.ofWord? word with
    | some c => .ok (some c, withoutWord word args)
    | none => .error word

/-- The commands that a mistyped word may have meant.  The command `help` is never suggested. -/
def suggestions (typed : String) : List String :=
  ((Command.all.filter (· ≠ .help)).map Command.word).filter (isCloseTo typed)

end CommandLine

end Stepwise
