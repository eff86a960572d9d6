import Stepwise.Proofs.Fixture
import Stepwise.Proofs.Grammar.ReadBack
import Stepwise.Proofs.Suite.Layout
import Stepwise.Proofs.Suite.TestProgram

/-!
# The verdict of a written test

A case says something about one step (`Case.Holds`).  What is written for it is a test program and
the files that the program reads (`Suite.testVerdict?`).  The terms of the case are printed, kept in
files, trimmed and read again on the way, and its name and strategy end up in string literals, but
the test passes exactly if the case holds (`Suite.written_test_passes_iff_holds`).
-/

open Stepwise.Path

namespace Stepwise

/-- What a case says: the step of its strategy leads from its input to its output, or it is stuck if
there is no output. -/
inductive Case.Holds (c : Case) : Prop
  | step {strategy : Strategy} {before after : Term} (given : c.output ≠ [])
    (known : Strategy.ofName? c.strategy.shown = some strategy)
    (reads : Term.parseChars c.input.chars = .ok before)
    (expects : Term.parseChars c.output.chars = .ok after)
    (steps : strategy.step before = .ok after) : Holds c
  | stuck {strategy : Strategy} {before : Term} {stuck : Stuck} (absent : c.output = [])
    (known : Strategy.ofName? c.strategy.shown = some strategy)
    (reads : Term.parseChars c.input.chars = .ok before)
    (fails : strategy.step before = .error stuck) : Holds c

/-! ## Text that survives -/

namespace Text

/-- Text in which no replacement character is seen is what it is seen as. -/
theorem ofString_shown {t : Text} (wellFormed : '\uFFFD' ∉ t.chars) : ofString t.shown = t := by
  rw [ofString, shown, String.toList_ofList, chars, List.map_map]
  refine (List.map_congr_left ?_).trans (List.map_id t)
  intro g member
  cases g with
  | char c => rfl
  | stray b => exact (wellFormed (List.mem_map_of_mem member)).elim

end Text

/-- The name of a strategy is still that name when it comes out of a string literal. -/
theorem TestProgram.strategyName_of_octets {p : TestProgram} {name : Text} {strategy : Strategy}
    (octets : p.strategy = name.octets) (known : Strategy.ofName? name.shown = some strategy) :
    p.strategyName = name.shown := by
  have same {s : String} (shown : name.shown = s) (plain : '\uFFFD' ∉ s.toList)
      (decoded : (Text.ofBytes ((Text.ofString s).octets.map UInt8.ofNat)).shown = s) :
      p.strategyName = name.shown := by
    have chars : name.chars = s.toList := by rw [← shown, Text.shown, String.toList_ofList]
    have whole : Text.ofString name.shown = name := Text.ofString_shown (by rwa [chars])
    rw [strategyName, octets, ← whole, Text.shown_ofString, shown, decoded]
  unfold Strategy.ofName? at known
  split at known
  case h_7 => cases known
  all_goals
    next shown => exact same shown (by decide) (by decide)

/-- The check of a step between printed terms that were read passes if the step leads from one to
the other. -/
theorem Fixture.stepHolds_text {name : String} {strategy : Strategy} {source expected : List Char}
    {t u : Term} (known : Strategy.ofName? name = some strategy)
    (read : Term.parseChars source = .ok t) (readExpected : Term.parseChars expected = .ok u) :
    stepHolds name t.text u.text = true ↔ strategy.step t = .ok u := by
  rw [stepHolds_iff known (Term.parse_text_of_parseChars read),
    Term.parse_text_of_parseChars readExpected]
  constructor
  · rintro ⟨v, steps, same⟩
    rwa [Except.ok.inj same]
  · intro steps
    exact ⟨u, steps, rfl⟩

namespace Suite

open FileTree

/-! ## Files of a written case -/

/-- The test program in a folder. -/
def testProgram? (tree : FileTree) (folder : Text) : Option TestProgram := do
  let source ← (tree.fetch (join folder testFile)).toOption
  TestProgram.read? source.chars

/-- The content of a file in a folder. -/
def fileText? (tree : FileTree) (folder : Text) (file : String) : Option Text :=
  (tree.fetch (join folder (Text.ofString file))).toOption

/-- Whether the test in a folder passes on the files of that folder. -/
def testVerdict? (tree : FileTree) (folder : Text) : Option Bool := do
  let program ← testProgram? tree folder
  program.verdict? (fileText? tree folder)

section Written

variable {base : Text} {c : Case} {tree : FileTree}

/-- Every file of a case can be read when the case has been written, whatever was there before. -/
theorem fetch_writeCase (free : FileFaultFree (writeCase base c tree)) {k : Contents}
    (holds : contents? c = some k) {f : Text × String} (member : f ∈ k.files) :
    (writeCase base c tree).1.fetch (join (join base c.name) f.1) = .ok (Text.ofString f.2) := by
  have laid {place : Place} {node : FileNode} (h : k.Holds (join base c.name) place node) :=
    (get?_writeCase free).1 place node ⟨k, holds, h⟩
  have fits := (fileFaultFree_writeCase.1 free k holds).files f member
  rw [join_segment _ (Contents.isSegment member)]
  refine (fetch_eq_ok (Contents.isClean _ member)).2 ⟨fits.1, ?_, laid (.file member)⟩
  intro front isFront
  by_cases empty : front = []
  · rw [empty]
    exact get?_placeOf_nil _ _
  · exact laid (.folder empty isFront)

/-! ## The verdict -/

variable {folder : Text} {strategy : Strategy} {before after : Term}

theorem testProgram?_of_fetch {source : Text}
    (test : tree.fetch (join folder testFile) = .ok source) :
    testProgram? tree folder = TestProgram.read? source.chars := by
  rw [testProgram?, test]
  rfl

theorem testVerdict?_of_testProgram? {program : TestProgram}
    (test : testProgram? tree folder = some program) :
    testVerdict? tree folder = program.verdict? (fileText? tree folder) := by
  rw [testVerdict?, test]
  rfl

theorem fileText?_of_fetch {file : String} {content : Text}
    (reads : tree.fetch (join folder (Text.ofString file)) = .ok content) :
    fileText? tree folder file = some content := by
  rw [fileText?, reads]
  rfl

/-- The test of a case without output passes if its step is stuck. -/
theorem testVerdict?_stuck (absent : c.output = [])
    (known : Strategy.ofName? c.strategy.shown = some strategy)
    (reads : Term.parseChars c.input.chars = .ok before)
    (test : tree.fetch (join folder testFile) = .ok (Text.ofString (stuckTest c)))
    (input : tree.fetch (join folder inputFile) = .ok (Text.ofString before.text)) :
    testProgram? tree folder = some (.stuckProgram c) ∧
      ∃ passes, testVerdict? tree folder = some passes ∧ (passes = true ↔ c.Holds) := by
  have program : testProgram? tree folder = some (.stuckProgram c) := by
    rw [testProgram?_of_fetch test, Text.chars_ofString, TestProgram.read?_stuckTest]
  have verdict := TestProgram.verdict?_stuckProgram (c := c) (fileText?_of_fetch input)
  rw [← testVerdict?_of_testProgram? program] at verdict
  refine ⟨program, _, verdict, ?_⟩
  rw [Text.shown_ofString, TestProgram.strategyName_of_octets rfl known,
    Fixture.stuckHolds_iff known (Term.parse_text_of_parseChars reads)]
  constructor
  · rintro ⟨stuck, fails⟩
    exact .stuck absent known reads fails
  · intro holds
    cases holds with
    | step given => exact (given absent).elim
    | stuck _ known' reads' fails =>
      cases known.symm.trans known'
      cases reads.symm.trans reads'
      exact ⟨_, fails⟩

/-- The test of a case with an output passes if its step leads there. -/
theorem testVerdict?_step (given : c.output ≠ [])
    (known : Strategy.ofName? c.strategy.shown = some strategy)
    (reads : Term.parseChars c.input.chars = .ok before)
    (expects : Term.parseChars c.output.chars = .ok after)
    (test : tree.fetch (join folder testFile) = .ok (Text.ofString (stepTest c)))
    (input : tree.fetch (join folder inputFile) = .ok (Text.ofString before.text))
    (output : tree.fetch (join folder outputFile) = .ok (Text.ofString after.text)) :
    testProgram? tree folder = some (.stepProgram c) ∧
      ∃ passes, testVerdict? tree folder = some passes ∧ (passes = true ↔ c.Holds) := by
  have program : testProgram? tree folder = some (.stepProgram c) := by
    rw [testProgram?_of_fetch test, Text.chars_ofString, TestProgram.read?_stepTest]
  have verdict :=
    TestProgram.verdict?_stepProgram (c := c) (fileText?_of_fetch input) (fileText?_of_fetch output)
  rw [← testVerdict?_of_testProgram? program] at verdict
  refine ⟨program, _, verdict, ?_⟩
  rw [Text.shown_ofString, Text.shown_ofString, TestProgram.strategyName_of_octets rfl known,
    Fixture.stepHolds_text known reads expects]
  constructor
  · intro steps
    exact .step given known reads expects steps
  · intro holds
    cases holds with
    | stuck absent => exact (given absent).elim
    | step _ known' reads' expects' steps =>
      cases known.symm.trans known'
      cases reads.symm.trans reads'
      cases expects.symm.trans expects'
      exact steps

/-- When a case has been written, whatever files there were before, the test in its folder is the
check of a step or of a stuck term with the name and the strategy of the case, and it passes exactly
if what the case says holds. -/
theorem written_test_passes_iff_holds (base : Text) (c : Case) (tree : FileTree)
    (written : (writeCase base c tree).2 = none) :
    testProgram? (writeCase base c tree).1 (join base c.name) =
        some (if c.output.isEmpty then .stuckProgram c else .stepProgram c) ∧
      ∃ passes, testVerdict? (writeCase base c tree).1 (join base c.name) = some passes ∧
        (passes = true ↔ c.Holds) := by
  have free : FileFaultFree (writeCase base c tree) := by
    intro fault
    rw [written]
    nofun
  obtain ⟨⟨strategy, known⟩, ⟨before, reads⟩, outputs⟩ :=
    isSound_iff.1 ((script_fault_eq_none base c).1 (writeCase_snd free ▸ written))
  rcases Decidable.em (c.output = []) with absent | given
  · have holds : contents? c =
        some ⟨[(inputFile, before.text), (testFile, stuckTest c)], contents?.stuckNames⟩ := by
      rw [contents?, known, reads]
      simp [absent]
    rw [if_pos (by simp [absent])]
    refine testVerdict?_stuck absent known reads ?_ ?_
    · exact fetch_writeCase free holds (f := (testFile, stuckTest c)) (by simp)
    · exact fetch_writeCase free holds (f := (inputFile, before.text)) (by simp)
  · obtain ⟨after, expects⟩ := outputs.resolve_left given
    have holds : contents? c = some ⟨[(inputFile, before.text), (outputFile, after.text),
        (testFile, stepTest c)], .refl _⟩ := by
      rw [contents?, known, reads, expects]
      simp [given]
    rw [if_neg (by simpa using given)]
    refine testVerdict?_step given known reads expects ?_ ?_ ?_
    · exact fetch_writeCase free holds (f := (testFile, stepTest c)) (by simp)
    · exact fetch_writeCase free holds (f := (inputFile, before.text)) (by simp)
    · exact fetch_writeCase free holds (f := (outputFile, after.text)) (by simp)

end Written

/-- A case without output is written over an older one of the same name, whose output file stays.
The test is the check of a stuck term, and it passes. -/
theorem written_test_passes_iff_holds_overwriting :
    let base := Text.ofString "out"
    let name := Text.ofString "\"a\nb\""
    let older : Case :=
      ⟨name, Text.ofString "cbn", Text.ofString "(\\x. x) y", Text.ofString "y"⟩
    let c : Case := ⟨name, Text.ofString "normal", Text.ofString " \\z .(y\t(\\x.x))\n", []⟩
    let tree := (writeCase base older .empty).1
    (writeCase base c tree).2 = none ∧
      fileText? (writeCase base c tree).1 (join base name) "output.lam" =
        some (Text.ofString "y") ∧
      testVerdict? (writeCase base c tree).1 (join base name) = some true := by
  intro base name older c tree
  have written : (writeCase base c tree).2 = none := by decide +kernel
  have remains : fileText? (writeCase base c tree).1 (join base name) "output.lam" =
      some (Text.ofString "y") := by decide +kernel
  have reads : Term.parseChars c.input.chars =
      .ok (.abs "z" (.app (.var "y") (.abs "x" (.var "x")))) := by decide +kernel
  have known : Strategy.ofName? c.strategy.shown = some .normalOrder := by decide
  have holds : c.Holds := .stuck rfl known reads rfl
  obtain ⟨-, passes, verdict, passes_iff⟩ := written_test_passes_iff_holds base c tree written
  refine ⟨written, remains, ?_⟩
  rw [verdict, passes_iff.2 holds]

end Suite

end Stepwise
