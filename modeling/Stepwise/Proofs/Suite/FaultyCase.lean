import Stepwise.Proofs.Grammar.Reading
import Stepwise.Proofs.Suite.Layout

/-!
# What a faulty case leaves in the files

A case is faulty if its strategy is unknown, its input cannot be read, or its output is given and
cannot be read.  The first two are found before anything is changed, and such a case leaves no
trace.  The third is found late: the folder of the case has been made by then and the input written
in it, and both stay.

So a case whose output cannot be read leaves no trace only if the same input was there before
(`Suite.faulty_case_leaves_at_most_its_input`).  Over an older case of the same name its input gets
the output and the test of the older one beside it
(`Suite.faulty_output_mixes_with_older_case`).
-/

open Stepwise.Path

namespace Stepwise

namespace Suite

open FileTree

/-- The contents of a folder in which only the input of a case has been written. -/
def inputOnly (input : Term) : Contents := ⟨[(inputFile, input.text)], contents?.inputNames⟩

section Faulty

variable {base : Text} {c : Case} {strategy : Strategy} {input : Term} {e : SyntaxError}

theorem script_of_unknown_strategy (base : Text)
    (unknown : Strategy.ofName? c.strategy.shown = none) :
    script base c = ⟨[], some (.unknownStrategy c.strategy)⟩ := by
  rw [script, unknown]

theorem script_of_malformed_input (base : Text)
    (known : Strategy.ofName? c.strategy.shown = some strategy)
    (malformed : Term.parseChars c.input.chars = .error e) :
    script base c = ⟨[], some (.input e)⟩ := by
  rw [script, known, malformed]

section Output

variable (known : Strategy.ofName? c.strategy.shown = some strategy)
  (reads : Term.parseChars c.input.chars = .ok input) (given : c.output ≠ [])
  (malformed : Term.parseChars c.output.chars = .error e)

include known reads given malformed

theorem script_fault_of_malformed_output (base : Text) :
    (script base c).fault = some (.output e) := by
  rw [script, known, reads, malformed]
  simp [given]

theorem contents?_of_malformed_output : contents? c = some (inputOnly input) := by
  rw [contents?, known, reads, malformed]
  simp [given, inputOnly]

end Output

/-- In the folder nothing is laid under a name that no file of the contents has. -/
theorem Contents.not_holds_of_not_mem {k : Contents} {folder name : Text}
    (absent : name ∉ k.files.map Prod.fst) (node : FileNode) :
    ¬ k.Holds folder (placeOf (isRooted folder) (cleanParts folder ++ [name])) node := by
  intro holds
  generalize here : placeOf (isRooted folder) (cleanParts folder ++ [name]) = place at holds
  cases holds with
  | folder _ isFront => exact placeOf_concat_ne name isFront here.symm
  | file member =>
    rw [placeOf_concat_injective here] at absent
    exact absent (List.mem_map_of_mem member)

/-- A script without changes leaves all as it is. -/
theorem run_of_no_changes (tree : FileTree) (fault : Option CaseFault) :
    (Script.mk [] fault).run tree = (tree, fault) := rfl

/-- Where the contents are laid, the files are as before exactly if the same stood there. -/
theorem unchanged_iff_of_laid {k : Contents} {folder : Text} {tree tree' : FileTree}
    (laid : ∀ place node, k.Holds folder place node → tree'.get? place = some node)
    (kept : ∀ place, (∀ node, ¬ k.Holds folder place node) → tree'.get? place = tree.get? place) :
    (∀ place, tree'.get? place = tree.get? place) ↔
      ∀ place node, k.Holds folder place node → tree.get? place = some node := by
  constructor
  · intro unchanged place node holds
    rw [← unchanged place]
    exact laid place node holds
  · intro before place
    by_cases within : ∃ node, k.Holds folder place node
    · obtain ⟨node, holds⟩ := within
      rw [laid place node holds, before place node holds]
    · exact kept place (not_exists.1 within)

end Faulty

/-- A case with an unknown strategy or an input that cannot be read leaves the files as they were.
A case whose output cannot be read leaves its folder with its input in it and nothing else, so the
files are as they were exactly if that folder was there with that very input. -/
theorem faulty_case_leaves_at_most_its_input (base : Text) (c : Case) (tree : FileTree) :
    (Strategy.ofName? c.strategy.shown = none →
      writeCase base c tree = (tree, some (.unknownStrategy c.strategy))) ∧
    (∀ strategy e, Strategy.ofName? c.strategy.shown = some strategy →
      Term.parseChars c.input.chars = .error e →
      writeCase base c tree = (tree, some (.input e))) ∧
    ∀ strategy input e, Strategy.ofName? c.strategy.shown = some strategy →
      Term.parseChars c.input.chars = .ok input → c.output ≠ [] →
      Term.parseChars c.output.chars = .error e → FileFaultFree (writeCase base c tree) →
      (writeCase base c tree).2 = some (.output e) ∧
      (∀ place node, (inputOnly input).Holds (join base c.name) place node →
        (writeCase base c tree).1.get? place = some node) ∧
      (∀ place, (∀ node, ¬ (inputOnly input).Holds (join base c.name) place node) →
        (writeCase base c tree).1.get? place = tree.get? place) ∧
      ((∀ place, (writeCase base c tree).1.get? place = tree.get? place) ↔
        ∀ place node, (inputOnly input).Holds (join base c.name) place node →
          tree.get? place = some node) := by
  refine ⟨?_, ?_, ?_⟩
  · intro unknown
    rw [writeCase, script_of_unknown_strategy base unknown, run_of_no_changes]
  · intro strategy e known malformed
    rw [writeCase, script_of_malformed_input base known malformed, run_of_no_changes]
  · intro strategy input e known reads given malformed free
    have contents := contents?_of_malformed_output known reads given malformed
    obtain ⟨laid, kept⟩ := get?_writeCase free
    simp only [Lays, contents, Option.mem_some_iff, exists_eq_left'] at laid kept
    refine ⟨?_, laid, kept, unchanged_iff_of_laid laid kept⟩
    rw [writeCase_snd free, script_fault_of_malformed_output known reads given malformed base]

/-- A second case `a` comes over a first one that was written.  With an unknown strategy it changes
nothing.  With a known one and the output `(` it leaves its own input `z` in the place of `x`, and
the older output `y` stays beside it. -/
theorem faulty_case_leaves_at_most_its_input_over_older_case :
    let base := Text.ofString "out"
    let case (strategy input output : String) : Case :=
      ⟨Text.ofString "a", Text.ofString strategy, Text.ofString input, Text.ofString output⟩
    let tree := (writeCase base (case "no" "x" "y") .empty).1
    let folder := join base (Text.ofString "a")
    let file (name : Text) : Place := placeOf (isRooted folder) (cleanParts folder ++ [name])
    (writeCase base (case "eager" "z" "(") tree).1 = tree ∧
      (writeCase base (case "no" "z" "(") tree).1.get? (file inputFile) =
        some (.file (Text.ofString "z")) ∧
      (writeCase base (case "no" "z" "(") tree).1.get? (file outputFile) =
        some (.file (Text.ofString "y")) := by
  intro base case tree folder file
  have older : tree.get? (file outputFile) = some (.file (Text.ofString "y")) := by
    decide +kernel
  have reads : Term.parseChars (case "no" "z" "(").input.chars = .ok (.var "z") := by
    decide +kernel
  have malformed : Term.parseChars (case "no" "z" "(").output.chars =
      .error ⟨1, .unexpected none⟩ := by decide +kernel
  have free : FileFaultFree (writeCase base (case "no" "z" "(") tree) := by decide +kernel
  have stored : (inputFile, "z") ∈ (inputOnly (.var "z")).files := by decide
  obtain ⟨early, -, -⟩ := faulty_case_leaves_at_most_its_input base (case "eager" "z" "(") tree
  obtain ⟨-, -, late⟩ := faulty_case_leaves_at_most_its_input base (case "no" "z" "(") tree
  obtain ⟨-, laid, kept, -⟩ :=
    late .normalOrder (.var "z") _ (by decide) reads (by decide) malformed free
  refine ⟨?_, ?_, ?_⟩
  · rw [early (by decide)]
  · exact laid _ _ (.file stored)
  · rw [kept _ (Contents.not_holds_of_not_mem (by decide)), older]

/-- Not every faulty case leaves the files as they were: the output `(` cannot be read, and the
input of the older case of that name has given way. -/
theorem faulty_output_mixes_with_older_case :
    let base := Text.ofString "out"
    let case (input output : String) : Case :=
      ⟨Text.ofString "a", Text.ofString "no", Text.ofString input, Text.ofString output⟩
    let tree := (writeCase base (case "x" "y") .empty).1
    let place := [base, Text.ofString "a", inputFile]
    (writeCase base (case "z" "(") tree).2 = some (.output ⟨1, .unexpected none⟩) ∧
      tree.get? place = some (.file (Text.ofString "x")) ∧
      (writeCase base (case "z" "(") tree).1.get? place = some (.file (Text.ofString "z")) := by
  decide +kernel

end Suite

end Stepwise
