import Stepwise.Files.Tree
import Stepwise.Fixture
import Stepwise.Proofs.Text.Literal
import Stepwise.Suite.Script

/-!
# Test programs

The test of a case is the text of a program, and what it checks is decided when that text is read.
A test program declares variables that hold the files beside it, and makes one call of a check with
the name of the case, the strategy, and some of these variables.

`TestProgram.read?` reads a program by what stands in it, and `TestProgram.verdict?` says whether
its check passes on given files.  The tests of cases are read as the checks that they are meant to
be, whatever the name and the strategy of the case (`TestProgram.read?_stuckTest`,
`TestProgram.read?_stepTest`).
-/

namespace Stepwise

/-- What a test program declares and calls. -/
structure TestProgram where
  /-- The variables with the files that they hold. -/
  declared : List (String × String)
  /-- The check that is called. -/
  check : String
  /-- The octets of the name of the case. -/
  name : List Nat
  /-- The octets of the name of the strategy. -/
  strategy : List Nat
  /-- The variables that the check is given. -/
  arguments : List String
deriving DecidableEq

namespace TestProgram

/-! ## Reading a program -/

/-- A taker takes something from the front of a text. -/
abbrev Taker := StateT (List Char) Option

namespace Taker

/-- Takes the given text. -/
def expect (text : String) : Taker Unit := fun cs =>
  if text.toList <+: cs then some ((), cs.drop text.toList.length) else none

/-- Takes the characters at the front that satisfy `p`. -/
def run (p : Char → Bool) : Taker String := fun cs =>
  some (String.ofList (cs.takeWhile p), cs.dropWhile p)

/-- Takes a string literal. -/
def literal : Taker (List Nat) := Literal.read

/-- Takes as many as there are of what `taker` takes. -/
def many {α : Type} (taker : Taker α) (cs : List Char) : Option (List α × List Char) :=
  match taker cs with
  | none => some ([], cs)
  | some (a, rest) =>
    -- A taker that takes nothing is not asked again.
    if _h : rest.length < cs.length then (many taker rest).map fun p => (a :: p.1, p.2)
    else some ([a], rest)
termination_by cs.length

/-- A character of a word. -/
def isWordChar (c : Char) : Bool := c.isAlphanum || c == '_'

/-- Takes a word. -/
def word : Taker String := run isWordChar

/-- Takes the declaration of a variable that holds a file. -/
def declaration : Taker (String × String) := do
  expect "//go:embed "
  let file ← run (· != '\n')
  expect "\nvar "
  let x ← word
  expect " string\n\n"
  return (x, file)

/-- Takes one more argument of a call. -/
def argument : Taker String := do
  expect ", "
  word

/-- Takes a test program. -/
def program : Taker TestProgram := do
  expect "package gentests\n\nimport _ \"embed\"\nimport \"testing\"\n"
  expect "import \"github.com/vic/lamb/cmd/gentests/helper\"\n\n"
  let declared ← many declaration
  expect "func Test_"
  let _ ← word
  expect "(t *testing.T) \x7b\n\tgentests."
  let check ← word
  expect "(t, "
  let name ← literal
  expect ", "
  let strategy ← literal
  let arguments ← many argument
  expect ")\n\x7d\n"
  return ⟨declared, check, name, strategy, arguments⟩

end Taker

/-- The program that a text is, if it is one. -/
def read? (source : List Char) : Option TestProgram :=
  match Taker.program source with
  | some (program, []) => some program
  | _ => none

/-- The strategy that the program names. -/
def strategyName (p : TestProgram) : String :=
  (Text.ofBytes (p.strategy.map UInt8.ofNat)).shown

/-- Whether the check of the program passes, where `contents` gives the contents of files. -/
def verdict? (p : TestProgram) (contents : String → Option Text) : Option Bool := do
  let texts ← p.arguments.mapM fun x => do
    let file ← p.declared.lookup x
    contents file
  match p.check, texts with
  | "CheckStep", [input, output] =>
    some (Fixture.stepHolds p.strategyName input.shown output.shown)
  | "CheckStuck", [input] => some (Fixture.stuckHolds p.strategyName input.shown)
  | _, _ => none

/-! ## What takers take -/

namespace Taker

variable {α β : Type}

theorem bind_of_eq_some {taker : Taker α} {cs rest : List Char} {a : α}
    (takes : taker cs = some (a, rest)) (next : α → Taker β) :
    (taker >>= next) cs = next a rest := by
  change (taker cs).bind _ = _
  rw [takes]
  rfl

theorem bind_of_eq_none {taker : Taker α} {cs : List Char} (fails : taker cs = none)
    (next : α → Taker β) : (taker >>= next) cs = none := by
  change (taker cs).bind _ = _
  rw [fails]
  rfl

theorem expect_bind (text : String) (next : Unit → Taker β) (cs : List Char) :
    (expect text >>= next) (text.toList ++ cs) = next () cs := by
  refine bind_of_eq_some ?_ next
  rw [expect, if_pos (List.prefix_append _ _), List.drop_left]

theorem expect_bind_eq_none {text : String} (next : Unit → Taker β) {cs : List Char}
    (differ : ¬ text.toList <+: cs) : (expect text >>= next) cs = none :=
  bind_of_eq_none (if_neg differ) next

theorem run_append {p : Char → Bool} {front : String} {rest : List Char}
    (all : ∀ c ∈ front.toList, p c = true) (stops : ∀ c ∈ rest.head?, p c = false) :
    run p (front.toList ++ rest) = some (front, rest) := by
  have noneTaken : rest.takeWhile p = [] ∧ rest.dropWhile p = rest := by
    cases rest with
    | nil => exact ⟨rfl, rfl⟩
    | cons c rest => simp [stops c rfl]
  rw [run, List.takeWhile_append_of_pos all, List.dropWhile_append_of_pos all, noneTaken.1,
    noneTaken.2, List.append_nil, String.ofList_toList]

theorem literal_bind (t : Text) (next : List Nat → Taker β) (cs : List Char) :
    (literal >>= next) (t.quoted.toList ++ cs) = next t.octets cs :=
  bind_of_eq_some (Literal.read_quoted t cs) next

theorem many_append {taker : Taker α} {front rest : List Char} {a : α}
    {more : List α × List Char} (nonempty : front ≠ [])
    (takes : taker (front ++ rest) = some (a, rest)) (later : many taker rest = some more) :
    many taker (front ++ rest) = some (a :: more.1, more.2) := by
  have shorter : rest.length < (front ++ rest).length := by
    have positive := List.length_pos_iff.2 nonempty
    rw [List.length_append]
    omega
  rw [many, takes]
  dsimp only
  rw [dif_pos shorter, later]
  rfl

theorem many_of_eq_none {taker : Taker α} {cs : List Char} (ends : taker cs = none) :
    many taker cs = some ([], cs) := by
  rw [many, ends]

/-! ## Declarations and arguments -/

/-- A word, as it can be taken. -/
def IsWord (x : String) : Prop := ∀ c ∈ x.toList, isWordChar c = true

instance (x : String) : Decidable (IsWord x) :=
  decidable_of_iff (x.toList.all isWordChar = true) List.all_eq_true

/-- A declaration as it is written. -/
def declarationText (d : String × String) : String :=
  "//go:embed " ++ (d.2 ++ ("\nvar " ++ (d.1 ++ " string\n\n")))

/-- A variable and a file that can be declared. -/
structure IsDeclarable (d : String × String) : Prop where
  word : IsWord d.1
  line : ∀ c ∈ d.2.toList, (c != '\n') = true

theorem declaration_append {d : String × String} (declarable : IsDeclarable d) (cs : List Char) :
    declaration ((declarationText d).toList ++ cs) = some (d, cs) := by
  unfold declarationText
  rw [String.toList_append, String.toList_append, String.toList_append, String.toList_append,
    List.append_assoc, List.append_assoc, List.append_assoc, List.append_assoc, declaration,
    expect_bind, bind_of_eq_some (run_append declarable.line ?_), expect_bind, word,
    bind_of_eq_some (run_append declarable.word ?_), expect_bind]
  · rfl
  · simp [isWordChar]
  · simp

/-- Declarations are taken one after the other. -/
theorem many_declaration {ds : List (String × String)} (declarable : ∀ d ∈ ds, IsDeclarable d)
    {cs : List Char} (ends : declaration cs = none) :
    many declaration (ds.flatMap (fun d => (declarationText d).toList) ++ cs) = some (ds, cs) := by
  induction ds with
  | nil => exact many_of_eq_none ends
  | cons d ds ih =>
    obtain ⟨first, later⟩ := List.forall_mem_cons.1 declarable
    have nonempty : (declarationText d).toList ≠ [] := by
      unfold declarationText
      simp
    rw [List.flatMap_cons, List.append_assoc]
    exact many_append nonempty (declaration_append first _) (ih later)

/-- An argument as it is written. -/
def argumentText (x : String) : String := ", " ++ x

theorem argument_append {x : String} (isWord : IsWord x) {rest : List Char}
    (stops : ∀ c ∈ rest.head?, isWordChar c = false) :
    argument ((argumentText x).toList ++ rest) = some (x, rest) := by
  rw [argumentText, String.toList_append, List.append_assoc, argument, expect_bind]
  exact run_append isWord stops

/-- Arguments are taken one after the other. -/
theorem many_argument {xs : List String} (words : ∀ x ∈ xs, IsWord x) {cs : List Char}
    (ends : argument cs = none) (stops : ∀ c ∈ cs.head?, isWordChar c = false) :
    many argument (xs.flatMap (fun x => (argumentText x).toList) ++ cs) = some (xs, cs) := by
  induction xs with
  | nil => exact many_of_eq_none ends
  | cons x xs ih =>
    obtain ⟨first, later⟩ := List.forall_mem_cons.1 words
    have nonempty : (argumentText x).toList ≠ [] := by simp [argumentText]
    have stopsNext : ∀ c ∈ (xs.flatMap (fun x => (argumentText x).toList) ++ cs).head?,
        isWordChar c = false := by
      cases xs with
      | nil => exact stops
      | cons y ys => simp [argumentText, isWordChar]
    rw [List.flatMap_cons, List.append_assoc]
    exact many_append nonempty (argument_append first stopsNext) (ih later)

end Taker

/-! ## Programs -/

open Taker

/-- A test program as it is written. -/
def source (ds : List (String × String)) (test check : String) (name strategy : Text)
    (xs : List String) : List Char :=
  "package gentests\n\nimport _ \"embed\"\nimport \"testing\"\n".toList ++
  ("import \"github.com/vic/lamb/cmd/gentests/helper\"\n\n".toList ++
  (ds.flatMap (fun d => (declarationText d).toList) ++
  ("func Test_".toList ++ (test.toList ++ ("(t *testing.T) \x7b\n\tgentests.".toList ++
  (check.toList ++ ("(t, ".toList ++ (name.quoted.toList ++ (", ".toList ++
  (strategy.quoted.toList ++ (xs.flatMap (fun x => (argumentText x).toList) ++
  (")\n\x7d\n".toList ++ []))))))))))))

/-- A test program is read as what it declares and calls. -/
theorem read?_source {ds : List (String × String)} {test check : String} {xs : List String}
    (name strategy : Text) (declarable : ∀ d ∈ ds, IsDeclarable d) (testWord : IsWord test)
    (checkWord : IsWord check) (words : ∀ x ∈ xs, IsWord x) :
    read? (source ds test check name strategy xs) =
      some ⟨ds, check, name.octets, strategy.octets, xs⟩ := by
  have noDeclaration (cs : List Char) : declaration ("func Test_".toList ++ cs) = none := by
    rw [declaration]
    exact expect_bind_eq_none _ (by simp)
  have noArgument (cs : List Char) : argument (")\n\x7d\n".toList ++ cs) = none := by
    rw [argument]
    exact expect_bind_eq_none _ (by simp)
  have taken : program (source ds test check name strategy xs) =
      some (⟨ds, check, name.octets, strategy.octets, xs⟩, []) := by
    unfold source
    rw [program, expect_bind, expect_bind,
      bind_of_eq_some (many_declaration declarable (noDeclaration _)), expect_bind, word,
      bind_of_eq_some (run_append testWord ?_), expect_bind,
      bind_of_eq_some (run_append checkWord ?_), expect_bind, literal_bind, expect_bind,
      literal_bind, bind_of_eq_some (many_argument words (noArgument _) ?_), expect_bind]
    · rfl
    · simp [isWordChar]
    · simp [isWordChar]
    · simp [isWordChar]
  rw [read?, taken]

/-! ## The tests of cases -/

theorem isWord_append {x y : String} (first : IsWord x) (second : IsWord y) : IsWord (x ++ y) := by
  intro c member
  rw [String.toList_append] at member
  exact (List.mem_append.1 member).elim (first c) (second c)

theorem isWord_identifier (name : Text) : IsWord (Suite.identifier name) := by
  intro c member
  rw [Suite.identifier, String.toList_ofList] at member
  obtain ⟨d, -, rfl⟩ := List.mem_map.1 member
  split
  · assumption
  · decide

theorem isDeclarable_input : IsDeclarable ("input", "input.lam") where
  word := by decide
  line := List.all_eq_true.1 (by decide)

theorem isDeclarable_output : IsDeclarable ("output", "output.lam") where
  word := by decide
  line := List.all_eq_true.1 (by decide)

/-- The program that checks that a case is stuck. -/
def stuckProgram (c : Case) : TestProgram where
  declared := [("input", "input.lam")]
  check := "CheckStuck"
  name := c.name.octets
  strategy := c.strategy.octets
  arguments := ["input"]

/-- The program that checks that a case makes a step. -/
def stepProgram (c : Case) : TestProgram where
  declared := [("input", "input.lam"), ("output", "output.lam")]
  check := "CheckStep"
  name := c.name.octets
  strategy := c.strategy.octets
  arguments := ["input", "output"]

/-- The test of a stuck case is read as the check that it is stuck. -/
theorem read?_stuckTest (c : Case) :
    read? (Suite.stuckTest c).toList = some (stuckProgram c) := by
  have written : (Suite.stuckTest c).toList = source [("input", "input.lam")]
      (Suite.identifier c.name ++ "_Stuck") "CheckStuck" c.name c.strategy ["input"] := by
    unfold Suite.stuckTest Suite.testHeading source declarationText argumentText
    simp only [String.toList_append, List.append_assoc, List.flatMap_cons, List.flatMap_nil,
      List.append_nil]
    rfl
  rw [written]
  refine read?_source c.name c.strategy ?_ (isWord_append (isWord_identifier c.name) ?_) ?_ ?_
  · exact List.forall_mem_singleton.2 isDeclarable_input
  all_goals decide

/-- The test of a case that makes a step is read as the check that it does. -/
theorem read?_stepTest (c : Case) : read? (Suite.stepTest c).toList = some (stepProgram c) := by
  have written : (Suite.stepTest c).toList =
      source [("input", "input.lam"), ("output", "output.lam")]
        (Suite.identifier c.name ++ "_Step") "CheckStep" c.name c.strategy ["input", "output"] := by
    unfold Suite.stepTest Suite.testHeading source declarationText argumentText
    simp only [String.toList_append, List.append_assoc, List.flatMap_cons, List.flatMap_nil,
      List.append_nil]
    rfl
  rw [written]
  refine read?_source c.name c.strategy ?_ (isWord_append (isWord_identifier c.name) ?_) ?_ ?_
  · exact List.forall_mem_cons.2
      ⟨isDeclarable_input, List.forall_mem_singleton.2 isDeclarable_output⟩
  all_goals decide

section Verdict

variable {c : Case} {contents : String → Option Text} {input output : Text}

theorem verdict?_stuckProgram (holdsInput : contents "input.lam" = some input) :
    (stuckProgram c).verdict? contents =
      some (Fixture.stuckHolds (stuckProgram c).strategyName input.shown) := by
  simp [verdict?, stuckProgram, holdsInput]

theorem verdict?_stepProgram (holdsInput : contents "input.lam" = some input)
    (holdsOutput : contents "output.lam" = some output) :
    (stepProgram c).verdict? contents =
      some (Fixture.stepHolds (stepProgram c).strategyName input.shown output.shown) := by
  simp [verdict?, stepProgram, List.lookup_cons, holdsInput, holdsOutput]

end Verdict

end TestProgram

end Stepwise
