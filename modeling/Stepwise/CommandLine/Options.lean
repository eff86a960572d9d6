import Stepwise.Program.Flag
import Stepwise.Program.Log
import Stepwise.Term.Strategy

/-!
# Options of the command line

The flags of the commands, the settings that they give, and the options that result when the
settings are applied one after the other, so that the last one wins.
-/

namespace Stepwise

namespace CommandLine

/-- How results are written. -/
inductive Format where
  | text
  | yaml
deriving DecidableEq

/-- The format with the given name. -/
def Format.ofName? : String → Option Format
  | "text" => some text
  | "yaml" => some yaml
  | _ => none

/-- A strategy together with the name by which it was asked for. -/
structure NamedStrategy where
  strategy : Strategy
  name : String
deriving DecidableEq

/-- The effect of one flag. -/
inductive Setting where
  | help (on : Bool)
  | logLevel (name : String)
  | format (format : Format)
  | strategy (strategy : NamedStrategy)

/-- What the flags have set. -/
structure Options where
  help : Bool
  logLevel : String
  format : Format
  strategy : NamedStrategy

namespace Options

/-- The options when no flag is given. -/
def initial : Options :=
  ⟨false, "warn", .text, ⟨.normalOrder, Strategy.normalOrder.name⟩⟩

/-- The options after one more setting. -/
def apply (o : Options) : Setting → Options
  | .help on => { o with help := on }
  | .logLevel name => { o with logLevel := name }
  | .format format => { o with format := format }
  | .strategy strategy => { o with strategy := strategy }

/-- The options after all the settings. -/
def ofSettings (settings : List Setting) : Options := settings.foldl apply initial

end Options

/-! ## The flags -/

/-- The truth value that a word stands for. -/
def truth? : String → Option Bool
  | "1" | "t" | "T" | "true" | "TRUE" | "True" => some true
  | "0" | "f" | "F" | "false" | "FALSE" | "False" => some false
  | _ => none

/-- `--help`, described as help for `subject`. -/
def helpFlag (subject : String) : Flag Setting where
  long := "help"
  short := some 'h'
  bare := some "true"
  placeholder := ""
  description := "help for " ++ subject
  set value :=
    match truth? value with
    | some on => .ok (.help on)
    | none => .error ("strconv.ParseBool: parsing " ++ quoted value ++ ": invalid syntax")

/-- `--log-level`.  Any name is taken here; whether a level has it is asked later. -/
def logLevelFlag : Flag Setting where
  long := "log-level"
  short := none
  bare := none
  placeholder := "string"
  description := "logging level (default " ++ quoted Options.initial.logLevel ++ ")"
  set value := .ok (.logLevel value)

/-- `--output`. -/
def outputFlag : Flag Setting where
  long := "output"
  short := some 'o'
  bare := none
  placeholder := "format"
  description := "output format (text or yaml) (default text)"
  set value :=
    match Format.ofName? value with
    | some format => .ok (.format format)
    | none => .error ("unknown output format " ++ quoted value ++ " (want text or yaml)")

/-- `--strategy`. -/
def strategyFlag : Flag Setting where
  long := "strategy"
  short := some 's'
  bare := none
  placeholder := "strategy"
  description :=
    "reduction strategy (" ++ ", ".intercalate Strategy.names ++ ") (default " ++
      Options.initial.strategy.name ++ ")"
  set value :=
    match Strategy.ofName? value with
    | some strategy => .ok (.strategy ⟨strategy, value⟩)
    | none => .error (Strategy.unknownMessage (Text.ofString value))

/-- The flags that every command has. -/
def globalFlags : List (Flag Setting) := [logLevelFlag, outputFlag]

end CommandLine

end Stepwise
