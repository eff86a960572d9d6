import Stepwise.CommandLine.Command

/-!
# Help pages

A help page tells what a command is for, how it is called, and which commands and flags there are.
The part from `Usage:` on is also shown by itself.
-/

namespace Stepwise

namespace CommandLine

/-- A help page. -/
structure Page where
  /-- What the command is for. -/
  about : String
  /-- The forms of the call. -/
  calls : List String
  /-- Examples of calls. -/
  examples : List String
  /-- The commands below this one, with their summaries. -/
  commands : List (String × String)
  /-- The flags of this command. -/
  flags : List (Flag Setting)
  /-- The flags that come from the command above. -/
  inherited : List (Flag Setting)
  /-- The words that call the command. -/
  path : String

namespace Page

/-- A section with a title, or nothing if it has no lines. -/
def titled (title : String) (lines : List String) : List String :=
  if lines.isEmpty then [] else "" :: title :: lines

/-- The width of the column of command names. -/
def nameWidth : Nat := 11

/-- The line about one command. -/
def commandLine : String × String → String
  | (name, summary) =>
    "  " ++ name ++ String.ofList (List.replicate (nameWidth - name.length) ' ') ++ " " ++ summary

/-- The page from `Usage:` on. -/
def usage (p : Page) : String :=
  let footer :=
    if p.commands.isEmpty then []
    else ["", "Use \"" ++ p.path ++ " [command] --help\" for more information about a command."]
  let lines :=
    "Usage:" :: p.calls.map ("  " ++ ·) ++
    titled "Examples:" p.examples ++
    titled "Available Commands:" (p.commands.map commandLine) ++
    titled "Flags:" (Flag.usages p.flags) ++
    titled "Global Flags:" (Flag.usages p.inherited) ++
    footer
  "\n".intercalate lines ++ "\n"

/-- The whole page. -/
def text (p : Page) : String := p.about ++ "\n\n" ++ p.usage

end Page

/-! ## The texts -/

/-- One line about a command. -/
def Command.summary : Command → String
  | display => "Print a term in canonical textual form"
  | freeNames => "List the free variables of a term"
  | substitute => "Substitute a term for the free occurrences of a variable"
  | step => "Perform one beta-reduction step"
  | canonical => "Rename every identifier to its first-occurrence index"
  | compare => "Report whether two terms have the same canonical form"
  | help => "Help about any command"
  | completion => "Generate the autocompletion script for the specified shell"

/-- What the page of a command says first. -/
def Command.about : Command → String
  | substitute =>
    "Substitute REPLACEMENT for NAME in TERM. A binder that would capture a free variable of " ++
      "REPLACEMENT is left untouched."
  | help =>
    "Help provides help for any command in the application.\n" ++
      "Simply type lamb help [path to command] for full details."
  | completion =>
    "Generate the autocompletion script for lamb for the specified shell.\n" ++
      "See each sub-command's help for details on how to use the generated script."
  | c => c.summary

/-- What follows the word of a command in a call. -/
def Command.call : Command → String
  | display => "show TERM [flags]"
  | freeNames => "free TERM [flags]"
  | substitute => "subst TERM NAME REPLACEMENT [flags]"
  | step => "step TERM [flags]"
  | canonical => "reify TERM [flags]"
  | compare => "alpha TERM TERM [flags]"
  | help => "help [command] [flags]"
  | completion => "completion [command]"

/-- Examples of calls. -/
def Command.examples : Command → List String
  | display => ["lamb show '\\x.\\y.x'"]
  | freeNames => ["lamb free 'λx.(x y)'"]
  | substitute => ["lamb subst 'λy.(x y)' x 'λz.z'"]
  | step => ["lamb step '(λx.x y)'", "lamb step --strategy cbn 'λx.(λy.y x)'"]
  | canonical => ["lamb reify 'λf.λx.(f x)'"]
  | compare => ["lamb alpha 'λx.x' 'λy.y'"]
  | help => []
  | completion => []

/-- The shells that `completion` lists, with its summaries. -/
def Command.subcommands : Command → List (String × String)
  | completion =>
    ["bash", "fish", "powershell", "zsh"].map fun shell =>
      (shell, "Generate the autocompletion script for " ++ shell)
  | _ => []

/-- The page of a command. -/
def Command.page (c : Command) : Page where
  about := c.about
  calls := [programName ++ " " ++ c.call]
  examples := c.examples
  commands := c.subcommands
  flags := helpFlag c.word :: c.ownFlags
  inherited := globalFlags
  path := programName ++ " " ++ c.word

/-- What the program is for. -/
def programAbout : String :=
  "Inspect and reduce untyped lambda calculus terms.\n" ++
  "\n" ++
  "Terms use the form λx.body (or \\x.body) for abstractions and (f a) for\n" ++
  "applications. A TERM argument of \"-\" is read from stdin and \"@path\" is read\n" ++
  "from a file. Every command performs a single operation; reducing to a normal\n" ++
  "form means running \"lamb step\" repeatedly."

/-- The page of the program.  Its flag for help is listed if help was asked of the program. -/
def programPage (withHelp : Bool) : Page where
  about := programAbout
  calls := [programName ++ " [flags]", programName ++ " [command]"]
  examples := []
  commands :=
    (Command.all.map fun c => (c.word, c.summary)).mergeSort fun a b => a.1 ≤ b.1
  flags := (if withHelp then [helpFlag programName] else []) ++ globalFlags
  inherited := []
  path := programName

/-- The flags that can be given without a command. -/
def programFlags : List (Flag Setting) := helpFlag programName :: globalFlags

/-! ## Help on a topic -/

/-- Whether text can stand between backquotes. -/
def fitsBackquotes (s : String) : Bool :=
  s.toList.all fun c =>
    c == '\t' || (' ' ≤ c && c != '\x60' && c != '\x7F' && c != '\uFEFF')

/-- A word of a topic that there is no help on. -/
def topicWord (s : String) : String := if fitsBackquotes s then "\x60" ++ s ++ "\x60" else quoted s

/-- What is said when there is no help on a topic. -/
def unknownTopic (words : List String) : String :=
  "Unknown help topic [" ++ " ".intercalate (words.map topicWord) ++ "]\n" ++
    (programPage false).usage

/-- The page on a topic. -/
def topicPage? (words : List String) : Option Page :=
  match findCommand words with
  | .ok (some c, _) => some c.page
  | .ok (none, _) => some (programPage true)
  | .error _ => none

end CommandLine

end Stepwise
