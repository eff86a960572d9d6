import Stepwise.Text.LowerCase
import Stepwise.Text.Quoted

/-!
# Log lines

A log line gives its level, a message and named values.  A value made of plain characters stands as
it is, any other is quoted.  The time at which the line was written, which would stand first, is
left out.
-/

namespace Stepwise

/-- How much is logged. -/
inductive LogLevel where
  | panic
  | fatal
  | error
  | warn
  | info
  | debug
  | trace
deriving DecidableEq

namespace LogLevel

/-- The level with the given name, whatever the case of its letters. -/
def ofName? (name : String) : Option LogLevel :=
  match lowerCase name with
  | "panic" => some panic
  | "fatal" => some fatal
  | "error" => some error
  | "warn" | "warning" => some warn
  | "info" => some info
  | "debug" => some debug
  | "trace" => some trace
  | _ => none

/-- Whether lines of the level `debug` are written. -/
def showsDebug : LogLevel → Bool
  | debug | trace => true
  | _ => false

end LogLevel

namespace LogLine

/-- The characters that a value may have without being quoted. -/
def isPlain : Glyph → Bool
  | .char c => c.isAlphanum || "-._/@^+".toList.contains c
  | .stray _ => false

/-- A value, quoted where it has to be. -/
def value (t : Text) : String :=
  if t.all isPlain then t.shown else t.quoted

/-- The line with the given level, message and named values. -/
def render (level : String) (message : Text) (fields : List (String × Text)) : String :=
  "level=" ++ level ++ " msg=" ++ value message ++
    String.join (fields.map fun (name, t) => " " ++ name ++ "=" ++ value t) ++ "\n"

end LogLine

end Stepwise
