import Stepwise.Text.Octets
import Stepwise.Text.Quoted

/-!
# Flags

A program declares flags; its arguments are read against them.  A long flag is written
`--name value` or `--name=value`, a short one `-n value`, `-nvalue` or `-n=value`, and short flags
that need no value may share one dash.  Flags and other arguments may be mixed until `--`, after
which nothing is a flag.  A lone `-` is no flag.

Every flag says what a value given to it means (`Flag.set`), so reading the arguments gives the list
of settings in the order in which they were given.  The first fault ends it.
-/

namespace Stepwise

/-- A flag of a program whose settings have the type `σ`. -/
structure Flag (σ : Type) where
  /-- The long name. -/
  long : String
  /-- The letter of the short form. -/
  short : Option Char
  /-- The value that the flag stands for when none is given; without it a value is required. -/
  bare : Option String
  /-- What the help page writes for the value. -/
  placeholder : String
  /-- What the help page says about the flag, with the default if there is one. -/
  description : String
  /-- What a value means, or the complaint about it. -/
  set : String → Except String σ

/-- Why arguments are refused. -/
inductive FlagFault where
  /-- A long flag without a name. -/
  | malformed (arg : String)
  /-- A long flag that was not declared. -/
  | unknownLong (name : String)
  /-- A short flag that was not declared; `cluster` is the rest of the argument from it on. -/
  | unknownShort (letter : Char) (cluster : String)
  /-- A long flag at the end that requires a value. -/
  | valuelessLong (arg : String)
  /-- A short flag at the end that requires a value. -/
  | valuelessShort (letter : Char) (cluster : String)
  /-- A value that the flag with the shown name refuses. -/
  | badValue (value shownName complaint : String)
  /-- Help was asked of a program that declares no flag for it. -/
  | helpAsked
deriving DecidableEq

/-- The wording of a fault. -/
def FlagFault.message : FlagFault → String
  | malformed arg => "bad flag syntax: " ++ arg
  | unknownLong name => "unknown flag: --" ++ name
  | unknownShort letter cluster =>
    "unknown shorthand flag: " ++ quotedChar letter ++ " in -" ++ cluster
  | valuelessLong arg => "flag needs an argument: " ++ arg
  | valuelessShort letter cluster =>
    "flag needs an argument: " ++ quotedChar letter ++ " in -" ++ cluster
  | badValue value shownName complaint =>
    "invalid argument " ++ quoted value ++ " for " ++ quoted shownName ++ " flag: " ++ complaint
  | helpAsked => "pflag: help requested"

namespace Flag

variable {σ : Type}

/-- The name under which a fault shows the flag. -/
def shownName (flag : Flag σ) : String :=
  match flag.short with
  | some c => "-" ++ String.singleton c ++ ", --" ++ flag.long
  | none => "--" ++ flag.long

/-- The setting that a value gives. -/
def accept (flag : Flag σ) (value : String) : Except FlagFault σ :=
  match flag.set value with
  | .ok setting => .ok setting
  | .error complaint => .error (.badValue value flag.shownName complaint)

/-! ## One argument -/

/-- What a single argument amounts to. -/
inductive Piece (σ : Type) where
  /-- It is no flag. -/
  | plain
  /-- Nothing after it is a flag. -/
  | terminator
  /-- It gives these settings. -/
  | settings (settings : List σ)
  /-- It gives these settings, and the next argument is the value of `flag`; `missing` is the fault
  if there is no next argument. -/
  | pending (settings : List σ) (flag : Flag σ) (missing : FlagFault)

/-- The piece with one more setting before its own. -/
def Piece.cons (s : σ) : Piece σ → Piece σ
  | plain => plain
  | terminator => terminator
  | settings l => settings (s :: l)
  | pending l flag missing => pending (s :: l) flag missing

/-- The first octet of a character, as the character with that code. -/
def leadingOctet (c : Char) : Char := Char.ofNat ((octets c).headD 0)

/-- Whether a cluster belongs to the test runner and is passed over. -/
def isRunnerCluster (cluster : List Char) : Bool := "test.".toList.isPrefixOf cluster

/-- Reads the letters after a single dash. -/
def readCluster (flags : List (Flag σ)) : List Char → Except FlagFault (Piece σ)
  | [] => .ok (.settings [])
  | c :: rest =>
    if isRunnerCluster (c :: rest) then .ok (.settings [])
    else
      match flags.find? (·.short = some c), rest with
      | none, _ =>
        if c = 'h' then .error .helpAsked
        else .error (.unknownShort (leadingOctet c) (String.ofList (c :: rest)))
      | some flag, '=' :: v :: vs => do
        return .settings [← flag.accept (String.ofList (v :: vs))]
      | some flag, rest =>
        match flag.bare, rest with
        | some value, rest => do
          let setting ← flag.accept value
          return (← readCluster flags rest).cons setting
        | none, [] => .ok (.pending [] flag (.valuelessShort c (String.singleton c)))
        | none, rest => do return .settings [← flag.accept (String.ofList rest)]

/-- The part of a list before the first `=`, and the part after it if there is one. -/
def splitEquals : List Char → List Char × Option (List Char)
  | [] => ([], none)
  | '=' :: rest => ([], some rest)
  | c :: rest =>
    let (name, value) := splitEquals rest
    (c :: name, value)

/-- Reads an argument that starts with two dashes, the letters after which are `body`. -/
def readLong (flags : List (Flag σ)) (arg : String) (body : List Char) :
    Except FlagFault (Piece σ) :=
  if body.head? = some '-' ∨ body.head? = some '=' then .error (.malformed arg)
  else
    let (name, value) := splitEquals body
    let name := String.ofList name
    match flags.find? (·.long = name), value with
    | none, _ => if name = "help" then .error .helpAsked else .error (.unknownLong name)
    | some flag, some value => do return .settings [← flag.accept (String.ofList value)]
    | some flag, none =>
      match flag.bare with
      | some value => do return .settings [← flag.accept value]
      | none => .ok (.pending [] flag (.valuelessLong arg))

/-- Reads one argument. -/
def readPiece (flags : List (Flag σ)) (arg : String) : Except FlagFault (Piece σ) :=
  match arg.toList with
  | ['-', '-'] => .ok .terminator
  | '-' :: '-' :: body => readLong flags arg body
  | ['-'] => .ok .plain
  | '-' :: cluster => readCluster flags cluster
  | _ => .ok .plain

/-! ## All arguments -/

/-- Reads the arguments: the settings they give, and those that are no flags. -/
def parse (flags : List (Flag σ)) : List String → Except FlagFault (List σ × List String)
  | [] => .ok ([], [])
  | arg :: rest => do
    match ← readPiece flags arg with
    | .plain =>
      let (settings, plain) ← parse flags rest
      return (settings, arg :: plain)
    | .terminator => return ([], rest)
    | .settings own =>
      let (settings, plain) ← parse flags rest
      return (own ++ settings, plain)
    | .pending own flag missing =>
      match rest with
      | [] => throw missing
      | value :: rest =>
        let setting ← flag.accept value
        let (settings, plain) ← parse flags rest
        return (own ++ setting :: settings, plain)

/-! ## Help -/

/-- The left column of the flag's line on a help page. -/
def heading (flag : Flag σ) : String :=
  let names := match flag.short with
    | some c => "  -" ++ String.singleton c ++ ", --" ++ flag.long
    | none => "      --" ++ flag.long
  if flag.placeholder = "" then names else names ++ " " ++ flag.placeholder

/-- The lines of a help page about the flags: two columns, three blanks apart. -/
def usages (flags : List (Flag σ)) : List String :=
  let width := (flags.map (·.heading.length)).foldl max 0
  flags.map fun flag =>
    flag.heading ++ String.ofList (List.replicate (width + 3 - flag.heading.length) ' ') ++
      flag.description

end Flag

end Stepwise
