import Stepwise.Proofs.CommandLine.Rounds
import Stepwise.Proofs.Term.Numbering
import Stepwise.Proofs.Yaml.Document

/-!
# How a call ends

A call of a command that takes terms ends in one of three ways: a term argument cannot be read, the
step is stuck, or the result is printed (`Ending`).  Which one is decided by the term arguments,
read from left to right (`readArgs`), where the standard input goes to the first `-` among them.

Nothing is printed before the end is known, so a call that fails prints nothing and reports its
first failure, and a call that does not fail prints the result for the terms it has read
(`run_prints_result_or_first_failure`).  If the result is printed as a document, its strings are
read back from there (`Gives.fits`).
-/

namespace Stepwise

namespace CommandLine

/-! ## What term arguments read as -/

/-- The source that a term argument stands for when the term arguments `before` stand to its left.
The first `-` takes all of the standard input. -/
def sourceOf (sources : Sources) (before : List String) (arg : String) : Except Failure Text :=
  if arg = "-" then .ok (if "-" ∈ before then [] else sources.stdin)
  else
    match arg.toList with
    | '@' :: path => (sources.file (String.ofList path)).mapError .unreadable
    | _ => .ok (Text.ofString arg)

/-- The term that a term argument reads as when the term arguments `before` stand to its left. -/
def termOf (sources : Sources) (before : List String) (arg : String) : Except Failure Term :=
  match sourceOf sources before arg with
  | .error failure => .error failure
  | .ok source => (Term.parseChars source.chars).mapError (.malformed source)

/-- The terms that term arguments read as up to the first one that fails, and how that one fails. -/
def readArgs (sources : Sources) (before : List String) :
    List String → List Term × Option Failure
  | [] => ([], none)
  | arg :: args =>
    match termOf sources before arg with
    | .error failure => ([], some failure)
    | .ok t =>
      let (ts, failed) := readArgs sources (before ++ [arg]) args
      (t :: ts, failed)

/-! ## Reading one argument after the other -/

namespace Reading

variable {α β : Type}

theorem run_bind (x : Reading α) (f : α → Reading β) (desk : Desk) :
    (x >>= f).run.run desk =
      match x.run.run desk with
      | (.ok a, next) => (f a).run.run next
      | (.error failure, next) => (.error failure, next) := by
  rw [ExceptT.run_bind, StateT.run_bind]
  cases x.run.run desk with
  | mk result next => cases result <;> rfl

/-- Wrapping that does nothing leaves a reading as it is. -/
theorem adapt_id (x : Reading α) : (x.adapt id : Reading α) = x := by
  funext desk
  change ((x.run.run desk).1.mapError id, (x.run.run desk).2) = x.run.run desk
  cases x.run.run desk with
  | mk result next => cases result <;> rfl

end Reading

/-- What is left of the sources when the term arguments `before` have been read. -/
def Sources.after (sources : Sources) (before : List String) : Sources :=
  { sources with stdin := if "-" ∈ before then [] else sources.stdin }

variable {sources : Sources} {before : List String} {ts : List Term}

theorem Sources.after_concat_of_ne {arg : String} (notStdin : arg ≠ "-") :
    sources.after (before ++ [arg]) = sources.after before := by
  have same : "-" ∈ before ++ [arg] ↔ "-" ∈ before := by
    rw [List.mem_append, List.mem_singleton]
    exact or_iff_left (Ne.symm notStdin)
  rw [after, after]
  simp only [same]

/-- Taking the source of an argument depends on the arguments before it only as far as they may have
taken the standard input. -/
theorem takeSource_after (arg : String) :
    (takeSource arg).run.run ⟨sources.after before, ts⟩ =
      (sourceOf sources before arg, ⟨sources.after (before ++ [arg]), ts⟩) := by
  by_cases isStdin : arg = "-"
  · subst isStdin
    rw [takeSource_stdin]
    simp [sourceOf, Sources.after]
  · rw [Sources.after_concat_of_ne isStdin, sourceOf, if_neg isStdin]
    split
    · next path spelt =>
      unfold takeSource
      rw [ExceptT.run_bind, StateT.run_bind]
      change StateT.run (ExceptT.run (if arg = "-" then _ else _ : Reading Text)) _ = _
      rw [if_neg isStdin, spelt]
      dsimp only [Sources.after]
      cases held : sources.file (String.ofList path) with
      | error fault =>
        simp only [held]
        rfl
      | ok source =>
        simp only [held]
        rfl
    · next notPath =>
      refine takeSource_inline _ isStdin fun first => ?_
      cases chars : arg.toList with
      | nil =>
        rw [chars] at first
        cases first
      | cons c cs =>
        rw [chars] at first
        cases first
        exact notPath cs chars

theorem readTerm_after (arg : String) :
    (readTerm arg).run.run ⟨sources.after before, ts⟩ =
      match termOf sources before arg with
      | .ok t => (.ok t, ⟨sources.after (before ++ [arg]), t :: ts⟩)
      | .error failure => (.error failure, ⟨sources.after (before ++ [arg]), ts⟩) := by
  unfold readTerm termOf
  rw [Reading.run_bind, takeSource_after]
  cases sourceOf sources before arg with
  | error failure => rfl
  | ok source =>
    dsimp only
    cases Term.parseChars source.chars <;> rfl

/-- A failure may be wrapped on the way out. -/
theorem readTerm_adapt_after (wrap : Failure → Failure) (arg : String) :
    ((readTerm arg).adapt wrap : Reading Term).run.run ⟨sources.after before, ts⟩ =
      match termOf sources before arg with
      | .ok t => (.ok t, ⟨sources.after (before ++ [arg]), t :: ts⟩)
      | .error failure => (.error (wrap failure), ⟨sources.after (before ++ [arg]), ts⟩) := by
  have read := @readTerm_after sources before ts arg
  change (((readTerm arg).run.run _).1.mapError wrap, ((readTerm arg).run.run _).2) = _
  rw [read]
  cases termOf sources before arg <;> rfl

/-! ## Reading the terms of a task -/

section Tasks

variable {β : Type}

theorem read_one (f : Term → β) (arg : String) :
    (do return f (← readTerm arg) : Reading β).run.run ⟨sources, []⟩ =
      match termOf sources [] arg with
      | .error failure => (.error failure, ⟨sources.after [arg], []⟩)
      | .ok t => (.ok (f t), ⟨sources.after [arg], [t]⟩) := by
  have first : (readTerm arg).run.run ⟨sources, []⟩ = _ := @readTerm_after sources [] [] arg
  rw [Reading.run_bind, first]
  cases termOf sources [] arg <;> rfl

theorem read_two (f : Term → Term → β) (wrap : Failure → Failure) (arg other : String) :
    (do
      let t ← readTerm arg
      return f t (← (readTerm other).adapt wrap) : Reading β).run.run ⟨sources, []⟩ =
      match termOf sources [] arg with
      | .error failure => (.error failure, ⟨sources.after [arg], []⟩)
      | .ok t =>
        match termOf sources [arg] other with
        | .error failure => (.error (wrap failure), ⟨sources.after [arg, other], [t]⟩)
        | .ok u => (.ok (f t u), ⟨sources.after [arg, other], [u, t]⟩) := by
  have first : (readTerm arg).run.run ⟨sources, []⟩ = _ := @readTerm_after sources [] [] arg
  rw [Reading.run_bind, first]
  cases termOf sources [] arg with
  | error failure => rfl
  | ok t =>
    have second := @readTerm_adapt_after sources [arg] [t] wrap other
    dsimp only [List.nil_append]
    rw [Reading.run_bind, second]
    cases termOf sources [arg] other <;> rfl

end Tasks

/-! ## What commands print -/

/-- The number of arguments of a command that takes terms. -/
def Command.arity? : Command → Option Nat
  | display | freeNames | step | canonical => some 1
  | compare => some 2
  | substitute => some 3
  | help | completion => none

/-- The arguments of a command that are terms. -/
def Command.termArgs : Command → List String → List String
  | substitute, [term, _, replacement] => [term, replacement]
  | _, plain => plain

/-- The failure of a command whose terms could be read up to the one that fails.  Only a replacement
is told apart from other terms. -/
def Command.blame (c : Command) (read : List Term) (failure : Failure) : Failure :=
  if c = substitute ∧ read.length = 1 then .replacement failure else failure

/-- What a command prints for the terms that it has read: the text and the document. -/
inductive Gives (strategy : NamedStrategy) :
    Command → List String → List Term → String → Yaml.Document → Prop
  | display {plain : List String} {t : Term} :
    Gives strategy .display plain [t] t.text [("term", .string t.text)]
  | freeNames {plain : List String} {t : Term} :
    Gives strategy .freeNames plain [t] ("\n".intercalate t.freeNames.eraseDups)
      [("term", .string t.text), ("free", .list t.freeNames.eraseDups)]
  | substitute {term name replacement : String} {t r : Term} :
    Gives strategy .substitute [term, name, replacement] [t, r] (t.subst name r).text
      [("term", .string (t.subst name r).text)]
  | step {plain : List String} {t u : Term} (steps : strategy.strategy.step t = .ok u) :
    Gives strategy .step plain [t] u.text
      [("strategy", .string strategy.name), ("input", .string t.text), ("output", .string u.text)]
  | canonical {plain : List String} {t : Term} :
    Gives strategy .canonical plain [t] t.canonical.text [("term", .string t.canonical.text)]
  | compare {plain : List String} {t u : Term} :
    Gives strategy .compare plain [t, u] (if t.sameCanonical u then "true" else "false")
      [("left", .string t.text), ("right", .string u.text),
        ("equivalent", .bool (t.sameCanonical u))]

/-- What a command prints for terms that have been read is a document from which its strings are
read back, as `Yaml.Document.string_readsAs` and `Yaml.Document.item_readsAs` say. -/
theorem Gives.fits {strategy : NamedStrategy} {c : Command} {plain : List String} {ts : List Term}
    {text : String} {document : Yaml.Document} (gives : Gives strategy c plain ts text document)
    (known : Strategy.ofName? strategy.name = some strategy.strategy)
    (named : ∀ t ∈ ts, ∀ name ∈ t.names, IsIdentifier name) : document.Fits := by
  have term {t : Term} (names : ∀ name ∈ t.names, IsIdentifier name) :
      Yaml.IsLine t.text.toList := Yaml.isLine_text names
  have strategyLine := Yaml.isLine_of_ofName? known
  cases gives with
  | @display _ t =>
    have namedTerm := named t (by simp)
    exact .string (by decide) (term namedTerm) .nil
  | @freeNames _ t =>
    have namedTerm := named t (by simp)
    refine .string (by decide) (term namedTerm) (.cons (by decide) ?_ .nil)
    intro name free
    rw [Yaml.Value.strings, List.mem_eraseDups] at free
    exact Yaml.isLine_of_isIdentifier (namedTerm name (Term.mem_names_of_mem_freeNames free))
  | @substitute _ _ _ t r =>
    have namedTerm := named t (by simp)
    have namedReplacement := named r (by simp)
    refine .string (by decide) (term ?_) .nil
    intro name member
    rcases Term.mem_names_of_subst member with inTerm | inReplacement
    · exact namedTerm name inTerm
    · exact namedReplacement name inReplacement
  | @step _ t u steps =>
    have namedTerm := named t (by simp)
    have namedResult : ∀ name ∈ u.names, IsIdentifier name := fun name member =>
      namedTerm name (Strategy.mem_names_of_step steps member)
    exact .string (by decide) strategyLine
      (.string (by decide) (term namedTerm) (.string (by decide) (term namedResult) .nil))
  | @canonical _ t =>
    exact .string (by decide) (term fun _ => Term.isIdentifier_of_mem_names_canonical) .nil
  | @compare _ t u =>
    have namedLeft := named t (by simp)
    have namedRight := named u (by simp)
    exact .string (by decide) (term namedLeft) (.string (by decide) (term namedRight)
      (.cons (by decide) (List.forall_mem_nil _) .nil))

theorem distinct_eq_eraseDups (names : List String) : distinct names = names.eraseDups := by
  have added : ∀ seen later : List String,
      later.foldl Term.noteName seen.eraseDups = (seen ++ later).eraseDups := by
    intro seen later
    induction later generalizing seen with
    | nil => rw [List.foldl_nil, List.append_nil]
    | cons name later ih =>
      rw [List.foldl_cons, Term.noteName_eraseDups, ih, List.append_assoc, List.singleton_append]
  exact added [] names

/-! ## Endings -/

/-- What a command prints in the given format. -/
def written (format : Format) (text : String) (document : Yaml.Document) : String :=
  match format with
  | .text => text ++ "\n"
  | .yaml => document.render

/-- How a call ends when its term arguments have been read up to the first failure. -/
inductive Ending (c : Command) (options : Options) (plain : List String) (level : LogLevel)
    (ts : List Term) : Option Failure → Report → Prop
  | refused (failure : Failure) :
    Ending c options plain level ts (some failure)
      ((c.blame ts failure).report level (logText level (ts.map parsedNote)))
  | stuck {t : Term} {stuck : Stuck} (isStep : c = .step) (single : ts = [t])
    (fails : options.strategy.strategy.step t = .error stuck) :
    Ending c options plain level ts none
      ((Failure.stuck options.strategy.name stuck).report level (logText level (ts.map parsedNote)))
  | printed {text : String} {document : Yaml.Document}
    (gives : Gives options.strategy c plain ts text document) (log : String) :
    Ending c options plain level ts none ⟨0, written options.format text document, log⟩

section Ending

variable {c : Command} {options : Options} {plain : List String} {level : LogLevel}
  {task : Task String} {left : Sources}

theorem Result.render_eq_written (result : Result) (format : Format) :
    result.render format = written format result.text result.document := by
  cases format <;> rfl

theorem Command.blame_nil (c : Command) (failure : Failure) : c.blame [] failure = failure :=
  if_neg fun wrapped => nomatch wrapped.2

theorem ending_of_read_error {failure blamed : Failure}
    (read : task.read.run.run ⟨sources, []⟩ = (.error blamed, ⟨left, ts⟩))
    (blames : c.blame ts.reverse failure = blamed) :
    Ending c options plain level ts.reverse (some failure)
      (task.report level options.format sources) := by
  unfold Task.report
  rw [read, ← blames]
  exact .refused failure

/-- The work on the terms gives what the command prints, or the step is stuck. -/
def Performs (c : Command) (strategy : NamedStrategy) (plain : List String) (ts : List Term)
    (done : Except Failure Result) : Prop :=
  (∃ result, done = .ok result ∧ Gives strategy c plain ts result.text result.document) ∨
    ∃ t stuck, c = .step ∧ ts = [t] ∧ strategy.strategy.step t = .error stuck ∧
      done = .error (.stuck strategy.name stuck)

theorem ending_of_read_ok {task' : Task Term}
    (read : task.read.run.run ⟨sources, []⟩ = (.ok task', ⟨left, ts⟩))
    (performs : Performs c options.strategy plain ts.reverse task'.perform) :
    Ending c options plain level ts.reverse none (task.report level options.format sources) := by
  unfold Task.report
  rw [read]
  dsimp only
  rcases performs with ⟨result, done, gives⟩ | ⟨t, stuck, isStep, single, fails, done⟩
  · rw [done]
    dsimp only
    rw [Result.render_eq_written]
    exact .printed gives _
  · rw [done]
    exact .stuck isStep single fails

theorem ending_one {f : Term → Task Term} {arg : String}
    (shape : task.read = (do return f (← readTerm arg)))
    (performs : ∀ t, Performs c options.strategy plain [t] (f t).perform) :
    Ending c options plain level (readArgs sources [] [arg]).1 (readArgs sources [] [arg]).2
      (task.report level options.format sources) := by
  have read := @read_one sources _ f arg
  rw [← shape] at read
  unfold readArgs
  cases first : termOf sources [] arg with
  | error failure =>
    rw [first] at read
    exact ending_of_read_error read (c.blame_nil failure)
  | ok t =>
    rw [first] at read
    exact ending_of_read_ok read (performs t)

theorem ending_two {f : Term → Term → Task Term} {wrap : Failure → Failure} {arg other : String}
    (shape : task.read = (do
      let t ← readTerm arg
      return f t (← (readTerm other).adapt wrap)))
    (wraps : ∀ t failure, c.blame [t] failure = wrap failure)
    (performs : ∀ t u, Performs c options.strategy plain [t, u] (f t u).perform) :
    Ending c options plain level (readArgs sources [] [arg, other]).1
      (readArgs sources [] [arg, other]).2 (task.report level options.format sources) := by
  have read := @read_two sources _ f wrap arg other
  rw [← shape] at read
  unfold readArgs
  cases first : termOf sources [] arg with
  | error failure =>
    rw [first] at read
    exact ending_of_read_error read (c.blame_nil failure)
  | ok t =>
    rw [first] at read
    dsimp only [List.nil_append] at read ⊢
    unfold readArgs
    cases second : termOf sources [arg] other with
    | error failure =>
      rw [second] at read
      exact ending_of_read_error read (wraps t failure)
    | ok u =>
      rw [second] at read
      exact ending_of_read_ok read (performs t u)

end Ending

/-! ## Calls -/

/-- The arguments call the command and pass every check: the flags can be read and do not ask for
help, the command has its number of arguments, and the log level is known. -/
structure Accepted (args : List String) (c : Command) (options : Options) (plain : List String)
    (level : LogLevel) : Prop where
  read : ∃ rest, findCommand args = .ok (some c, rest) ∧
    readFlags c.flags rest = .ok (options, plain)
  noHelp : options.help = false
  count : c.arity? = some plain.length
  chosen : chosenLevel options.logLevel = .ok level

/-- Arguments without flags are all plain. -/
theorem readFlags_of_isPlain (flags : List (Flag Setting)) {args : List String}
    (plain : ∀ arg ∈ args, IsPlain arg) :
    readFlags flags args = .ok (Options.initial, args) := by
  have parsed : Flag.parse flags args = .ok ([], args) := by
    induction args with
    | nil => rw [Flag.parse]
    | cons arg args ih =>
      obtain ⟨first, later⟩ := List.forall_mem_cons.1 plain
      rw [Flag.parse, readPiece_of_isPlain flags first, ih later]
      rfl
  rw [readFlags, parsed]
  rfl

theorem Accepted.run_eq_report {args plain : List String} {c : Command} {options : Options}
    {level : LogLevel} {task : Task String} (accepted : Accepted args c options plain level)
    (asked : taskOf c options plain = .ok (some task)) (sources : Sources) :
    run args sources = task.report level options.format sources := by
  obtain ⟨⟨rest, found, flags⟩, noHelp, count, chosen⟩ := accepted
  have noPage : (options.help || c = .completion) = false := by
    rw [noHelp, Bool.false_or, decide_eq_false_iff_not]
    rintro rfl
    cases count
  rw [run, interpret_eq_task found flags noPage asked chosen]

/-- Every call that passes the checks ends as its term arguments have it. -/
theorem Accepted.ending {args plain : List String} {c : Command} {options : Options}
    {level : LogLevel} (accepted : Accepted args c options plain level) (sources : Sources) :
    Ending c options plain level (readArgs sources [] (c.termArgs plain)).1
      (readArgs sources [] (c.termArgs plain)).2 (run args sources) := by
  have count := accepted.count
  cases c with
  | help => cases count
  | completion => cases count
  | display =>
    obtain ⟨arg, rfl⟩ := List.length_eq_one_iff.1 (Option.some.inj count).symm
    rw [accepted.run_eq_report rfl sources]
    exact ending_one rfl fun t => .inl ⟨_, rfl, .display⟩
  | freeNames =>
    obtain ⟨arg, rfl⟩ := List.length_eq_one_iff.1 (Option.some.inj count).symm
    rw [accepted.run_eq_report rfl sources]
    refine ending_one rfl fun t => .inl ⟨_, rfl, ?_⟩
    rw [distinct_eq_eraseDups]
    exact .freeNames
  | canonical =>
    obtain ⟨arg, rfl⟩ := List.length_eq_one_iff.1 (Option.some.inj count).symm
    rw [accepted.run_eq_report rfl sources]
    exact ending_one rfl fun t => .inl ⟨_, rfl, .canonical⟩
  | step =>
    obtain ⟨arg, rfl⟩ := List.length_eq_one_iff.1 (Option.some.inj count).symm
    rw [accepted.run_eq_report rfl sources]
    refine ending_one rfl fun t => ?_
    dsimp only [Task.perform]
    cases steps : options.strategy.strategy.step t with
    | ok u => exact .inl ⟨_, rfl, .step steps⟩
    | error stuck => exact .inr ⟨t, stuck, rfl, rfl, steps, rfl⟩
  | substitute =>
    obtain ⟨term, name, replacement, rfl⟩ := List.length_eq_three.1 (Option.some.inj count).symm
    rw [accepted.run_eq_report rfl sources]
    exact ending_two rfl (fun _ _ => rfl) fun t r => .inl ⟨_, rfl, .substitute⟩
  | compare =>
    obtain ⟨left, right, rfl⟩ := List.length_eq_two.1 (Option.some.inj count).symm
    -- Reading the second term is not wrapped here, which is to wrap it by nothing.
    have shape : (Task.compare left right).read = (do
        let t ← readTerm left
        return .compare t (← (readTerm right).adapt id)) := by
      rw [Reading.adapt_id]
      rfl
    rw [accepted.run_eq_report rfl sources]
    exact ending_two shape (fun _ _ => rfl) fun t u => .inl ⟨_, rfl, .compare⟩

/-- A call of a command that takes terms, with arguments that pass every check, exits with code 0
exactly if all its term arguments can be read and, for `step`, the step is not stuck.  Then it
prints the result for the terms and nothing else.  Otherwise it exits with code 1, prints nothing,
and complains of the first term argument that cannot be read, or else of the stuck step. -/
theorem run_prints_result_or_first_failure {args plain : List String} {c : Command}
    {options : Options} {level : LogLevel} (accepted : Accepted args c options plain level)
    (sources : Sources) {ts : List Term} {failed : Option Failure}
    (reads : readArgs sources [] (c.termArgs plain) = (ts, failed)) :
    ((run args sources).exit = 0 ↔ failed = none ∧
      (c = .step → ∀ t ∈ ts, ∃ u, options.strategy.strategy.step t = .ok u)) ∧
    ((run args sources).exit = 0 → ∃ text document,
      Gives options.strategy c plain ts text document ∧
      (run args sources).stdout = written options.format text document) ∧
    ((run args sources).exit ≠ 0 →
      (run args sources).exit = 1 ∧ (run args sources).stdout = "" ∧
      ∃ failure, ((∃ first, failed = some first ∧ failure = c.blame ts first) ∨
          ∃ t stuck, failed = none ∧ c = .step ∧ ts = [t] ∧
            options.strategy.strategy.step t = .error stuck ∧
            failure = .stuck options.strategy.name stuck) ∧
        (run args sources).stderr = logText level (ts.map parsedNote) ++ "Error: " ++
          (if level = .trace then failure.trace else failure.message) ++ "\n") := by
  have ending := accepted.ending sources
  rw [reads] at ending
  dsimp only at ending
  generalize run args sources = report at ending ⊢
  cases ending with
  | refused first =>
    refine ⟨⟨nofun, fun all => nomatch all.1⟩, nofun, fun _ => ⟨rfl, rfl, _, ?_, rfl⟩⟩
    exact .inl ⟨first, rfl, rfl⟩
  | @stuck t stuck isStep single fails =>
    refine ⟨⟨nofun, ?_⟩, nofun, fun _ => ⟨rfl, rfl, _, ?_, rfl⟩⟩
    · rintro ⟨-, steps⟩
      obtain ⟨u, stepsTo⟩ := steps isStep t (by rw [single]; exact List.mem_singleton_self t)
      rw [fails] at stepsTo
      cases stepsTo
    · exact .inr ⟨t, stuck, rfl, isStep, single, fails, rfl⟩
  | printed gives log =>
    refine ⟨⟨fun _ => ⟨rfl, ?_⟩, fun _ => rfl⟩, fun _ => ⟨_, _, gives, rfl⟩,
      fun failed => (failed rfl).elim⟩
    rintro rfl t member
    cases gives with
    | step steps =>
      rw [List.mem_singleton.1 member]
      exact ⟨_, steps⟩

/-- With two `-`, the second one reads the empty source, and its failure is the one reported: the
first term was read. -/
theorem run_prints_result_or_first_failure_two_dashes :
    let sources : Sources :=
      ⟨Text.ofString "x\n", fun path => .error ⟨.openFile, Text.ofString path, .missing⟩⟩
    readArgs sources [] ["-", "-"] =
        ([.var "x"], some (.malformed [] ⟨0, .unexpected none⟩)) ∧
      (run ["alpha", "-", "-"] sources).exit = 1 ∧ (run ["alpha", "-", "-"] sources).stdout = "" ∧
      (run ["alpha", "-", "-"] sources).stderr =
        "Error: parsing \"\": syntax error at 0: unexpected end of input\n" := by
  intro sources
  have accepted : Accepted ["alpha", "-", "-"] .compare Options.initial ["-", "-"] .warn :=
    ⟨⟨["-", "-"], rfl, readFlags_of_isPlain _ (by simp [IsPlain])⟩, rfl, rfl, rfl⟩
  have first : Term.parseChars (Text.ofString "x\n").chars = .ok (.var "x") := by decide +kernel
  have second : Term.parseChars (Text.chars []) = .error ⟨0, .unexpected none⟩ := by
    decide +kernel
  have reads : readArgs sources [] ["-", "-"] =
      ([.var "x"], some (.malformed [] ⟨0, .unexpected none⟩)) := by
    simp [readArgs, termOf, sourceOf, sources, first, second, Except.mapError]
  obtain ⟨exits, -, fails⟩ := run_prints_result_or_first_failure accepted sources reads
  have exit : (run ["alpha", "-", "-"] sources).exit ≠ 0 := fun zero => nomatch (exits.1 zero).1
  obtain ⟨one, nothing, failure, cause, complaint⟩ := fails exit
  refine ⟨reads, one, nothing, ?_⟩
  rcases cause with ⟨blamed, same, rfl⟩ | ⟨_, _, absent, -⟩
  · cases same
    rw [complaint]
    decide +kernel
  · cases absent

example : run ["step", "-s", "no", "-o", "yaml", "((λx.x) null)"]
      ⟨[], fun path => .error ⟨.openFile, Text.ofString path, .missing⟩⟩ =
    ⟨0, "strategy: \"no\"\ninput: (λx.x null)\noutput: \"null\"\n", ""⟩ := by
  decide +kernel

end CommandLine

end Stepwise
