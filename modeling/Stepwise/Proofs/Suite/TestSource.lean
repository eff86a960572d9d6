import Stepwise.Proofs.Suite.Verdict

/-!
# The source of a written test

The source of a test is a template with three gaps.  The first is part of the identifier of the
test, and the other two are the name and the strategy of the case in the call of the check.  The
name of a case is whatever a suite gives: quotes, backslashes, newlines, percent signs, or bytes
that are no text at all.

None of it changes the source outside of the gaps (`Suite.written_test_fills_template`).  What fills
the first gap is a word of the same length as the name, and what fills the other two are literals
that denote the name and the strategy (`Literal.Denotes`).
-/

open Stepwise.Path

namespace Stepwise

/-- A literal lies on one line, and wherever it stands in a program, reading takes the whole of it
and nothing else, and finds the octets of the text. -/
structure Literal.Denotes (literal : String) (t : Text) : Prop where
  oneLine : '\n' ∉ literal.toList
  reads : ∀ rest, read (literal.toList ++ rest) = some (t.octets, rest)

theorem Literal.denotes_quoted (t : Text) : Denotes t.quoted t where
  oneLine := newline_not_mem_quoted t
  reads := read_quoted t

namespace Suite

open FileTree
open TestProgram (isWord_identifier)
open TestProgram.Taker (IsWord)

/-! ## Templates -/

/-- Fills the gaps of a template from left to right.  A gap is a percent sign with the letter after
it; a percent sign in a text that fills a gap starts no gap. -/
def fillChars : List Char → List String → List Char
  | '%' :: _ :: cs, text :: texts => text.toList ++ fillChars cs texts
  | c :: cs, texts => c :: fillChars cs texts
  | [], _ => []

/-- The template with its gaps filled. -/
def fill (template : String) (texts : List String) : String :=
  String.ofList (fillChars template.toList texts)

/-- The template of the test that a case is stuck. -/
def stuckTemplate : String :=
  testHeading ++
  "func Test_%s_Stuck(t *testing.T) \x7b\n\tgentests.CheckStuck(t, %q, %q, input)\n\x7d\n"

/-- The template of the test that a case makes a step. -/
def stepTemplate : String :=
  testHeading ++
  "//go:embed output.lam\nvar output string\n\n" ++
  "func Test_%s_Step(t *testing.T) \x7b\n\tgentests.CheckStep(t, %q, %q, input, output)\n\x7d\n"

theorem fillChars_append {plain : List Char} (noGap : '%' ∉ plain) (cs : List Char)
    (texts : List String) : fillChars (plain ++ cs) texts = plain ++ fillChars cs texts := by
  induction plain with
  | nil => rfl
  | cons c plain ih =>
    rw [List.mem_cons, not_or] at noGap
    rw [List.cons_append, List.cons_append, fillChars, ih noGap.2]
    rintro _ _ _ _ - rfl
    exact (noGap.1 rfl).elim

section Fill

variable (rest : String) (texts : List String)

/-- A part of a template without a gap stays. -/
theorem fill_append {plain : String} (noGap : '%' ∉ plain.toList) :
    fill (plain ++ rest) texts = plain ++ fill rest texts := by
  apply String.toList_injective
  rw [fill, fill, String.toList_ofList, String.toList_append, fillChars_append noGap,
    String.toList_append, String.toList_ofList]

theorem fill_gap {gap : String} {letter : Char} (isGap : gap.toList = ['%', letter])
    (text : String) : fill (gap ++ rest) (text :: texts) = text ++ fill rest texts := by
  apply String.toList_injective
  rw [fill, fill, String.toList_ofList, String.toList_append, isGap, String.toList_append,
    String.toList_ofList]
  rfl

theorem fill_of_no_gap {plain : String} (noGap : '%' ∉ plain.toList) :
    fill plain texts = plain := by
  have filled := fillChars_append noGap [] texts
  rw [List.append_nil, fillChars, List.append_nil] at filled
  rw [fill, filled, String.ofList_toList]

end Fill

/-- The function of a test, when the gaps in it are filled. -/
theorem fill_function {call ending : String} (noGapCall : '%' ∉ call.toList)
    (noGapEnding : '%' ∉ ending.toList) (x y z : String) :
    fill ("func Test_" ++ ("%s" ++ (call ++ ("%q" ++ (", " ++ ("%q" ++ ending)))))) [x, y, z] =
      "func Test_" ++ (x ++ (call ++ (y ++ (", " ++ (z ++ ending))))) := by
  rw [fill_append _ _ (by decide), fill_gap _ _ rfl, fill_append _ _ noGapCall, fill_gap _ _ rfl,
    fill_append _ _ (by decide), fill_gap _ _ rfl, fill_of_no_gap _ noGapEnding]

theorem no_gap_testHeading : '%' ∉ testHeading.toList := by
  unfold testHeading
  rw [String.toList_append, String.toList_append]
  simp

theorem fill_stuckTemplate (c : Case) :
    fill stuckTemplate [identifier c.name, c.name.quoted, c.strategy.quoted] = stuckTest c := by
  have parts : stuckTemplate = testHeading ++ ("func Test_" ++ ("%s" ++
      ("_Stuck(t *testing.T) \x7b\n\tgentests.CheckStuck(t, " ++
        ("%q" ++ (", " ++ ("%q" ++ ", input)\n\x7d\n")))))) := rfl
  rw [parts, fill_append _ _ no_gap_testHeading, fill_function (by decide) (by decide)]
  simp only [stuckTest, String.append_assoc]
  rfl

theorem fill_stepTemplate (c : Case) :
    fill stepTemplate [identifier c.name, c.name.quoted, c.strategy.quoted] = stepTest c := by
  have parts : stepTemplate = testHeading ++ "//go:embed output.lam\nvar output string\n\n" ++
      ("func Test_" ++ ("%s" ++ ("_Step(t *testing.T) \x7b\n\tgentests.CheckStep(t, " ++
        ("%q" ++ (", " ++ ("%q" ++ ", input, output)\n\x7d\n")))))) := rfl
  rw [parts, String.append_assoc, fill_append _ _ no_gap_testHeading, fill_append _ _ (by decide),
    fill_function (by decide) (by decide)]
  simp only [stepTest, String.append_assoc]
  rfl

/-! ## The identifier -/

theorem length_identifier (name : Text) : (identifier name).length = name.length := by
  rw [identifier, String.length_ofList, List.length_map, Text.chars, List.length_map]

/-! ## The written source -/

/-- The template of the test of a case. -/
def template (c : Case) : String := if c.output.isEmpty then stuckTemplate else stepTemplate

/-- A sound case has a test among its files. -/
theorem fill_template_mem_files {c : Case} (sound : isSound c = true) :
    ∃ k, contents? c = some k ∧
      (testFile, fill (template c) [identifier c.name, c.name.quoted, c.strategy.quoted]) ∈
        k.files := by
  obtain ⟨⟨strategy, known⟩, ⟨before, reads⟩, outputs⟩ := isSound_iff.1 sound
  unfold contents? template
  rw [known, reads]
  dsimp only
  split
  · rw [fill_stuckTemplate]
    exact ⟨_, rfl, by simp⟩
  · next given =>
    obtain ⟨after, expects⟩ := outputs.resolve_left (by simpa using given)
    rw [expects, fill_stepTemplate]
    exact ⟨_, rfl, by simp⟩

/-- When a case has been written, whatever its name and whatever files there were before, the source
of its test is a template with three gaps filled.  The first is filled with a word that has one
character for each of the name, the others with literals that denote the name and the strategy. -/
theorem written_test_fills_template (base : Text) (c : Case) (tree : FileTree)
    (written : (writeCase base c tree).2 = none) :
    (writeCase base c tree).1.fetch (join (join base c.name) testFile) =
        .ok (Text.ofString
          (fill (template c) [identifier c.name, c.name.quoted, c.strategy.quoted])) ∧
      IsWord (identifier c.name) ∧ (identifier c.name).length = c.name.length ∧
      Literal.Denotes c.name.quoted c.name ∧ Literal.Denotes c.strategy.quoted c.strategy := by
  have free : FileFaultFree (writeCase base c tree) := by
    intro fault
    rw [written]
    nofun
  have sound : isSound c = true := (script_fault_eq_none base c).1 (writeCase_snd free ▸ written)
  obtain ⟨k, holds, member⟩ := fill_template_mem_files sound
  exact ⟨fetch_writeCase free holds member, isWord_identifier c.name, length_identifier c.name,
    Literal.denotes_quoted c.name, Literal.denotes_quoted c.strategy⟩

/-- A name that would end its literal and its line and start a gap, with a character that is not
printable, one beyond the basic plane, and a stray byte. -/
theorem written_test_fills_template_awkward_name :
    let base := Text.ofString "out"
    let name := Text.ofString "\", x)\n\\%s\u200b😀" ++ [.stray 0xff]
    let literal := "\"\\\", x)\\n\\\\%s\\u200b😀\\xff\""
    let c : Case := ⟨name, Text.ofString "cbn", Text.ofString "(\\x. x) y", Text.ofString "y"⟩
    (writeCase base c .empty).1.fetch (join (join base name) testFile) =
        .ok (Text.ofString (fill stepTemplate ["___x____s___", literal, "\"cbn\""])) ∧
      Literal.Denotes literal name := by
  intro base name literal c
  have written : (writeCase base c .empty).2 = none := by decide +kernel
  have ident : identifier c.name = "___x____s___" := by decide +kernel
  have quotedName : c.name.quoted = literal := by decide +kernel
  have quotedStrategy : c.strategy.quoted = "\"cbn\"" := by decide +kernel
  obtain ⟨source, -, -, denotesName, -⟩ := written_test_fills_template base c .empty written
  rw [ident, quotedName, quotedStrategy] at source
  exact ⟨source, quotedName ▸ denotesName⟩

end Suite

end Stepwise
