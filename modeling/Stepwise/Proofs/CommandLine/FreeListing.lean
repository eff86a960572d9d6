import Stepwise.Proofs.CommandLine.Endings
import Stepwise.Proofs.Term.FirstOccurrence

/-!
# The list of free names

Free names are collected from the inside out: each binder strikes its name from the list of its
body.  The same list comes from one traversal from the outside in that carries the names of the
binders above (`Term.unboundNames`).

The command `free` prints the list with later repetitions left out, one name a line.  The lines of
what it prints tell the names apart again, because a name that was read is an identifier: it is not
empty, so that the empty line says that there is no name, and it has no newline in it
(`CommandLine.free_lists_unbound_names`).
-/

namespace Stepwise

namespace Term

/-! ## One traversal -/

/-- The names of the variables that are neither among `bound` nor bound by a binder above them, from
left to right. -/
def unboundNames (bound : List String) : Term → List String
  | var x => if x ∈ bound then [] else [x]
  | abs x body => body.unboundNames (x :: bound)
  | app left right => left.unboundNames bound ++ right.unboundNames bound

/-- Names that are bound further out are struck from the free names. -/
theorem unboundNames_eq_filter (t : Term) (bound : List String) :
    t.unboundNames bound = t.freeNames.filter (· ∉ bound) := by
  induction t generalizing bound with
  | var x =>
    rw [unboundNames, freeNames]
    split <;> simp [*]
  | abs x body ih =>
    rw [unboundNames, freeNames, ih, List.filter_filter]
    refine List.filter_congr ?_
    intro y _
    rw [← Bool.decide_and, decide_eq_decide, List.mem_cons, not_or, and_comm]
  | app left right ihLeft ihRight =>
    rw [unboundNames, freeNames, ihLeft, ihRight, List.filter_append]

theorem freeNames_eq_unboundNames (t : Term) : t.freeNames = t.unboundNames [] := by
  rw [unboundNames_eq_filter, List.filter_eq_self.2]
  intro y _
  exact decide_eq_true List.not_mem_nil

/-- Names without later repetitions stand in the order of their first occurrences. -/
theorem pairwise_idxOf_eraseDups (names : List String) :
    names.eraseDups.Pairwise fun x y => names.idxOf x < names.idxOf y := by
  apply pairwise_eraseDups
  rintro front y ⟨rest, rfl⟩ new x known
  rw [List.append_assoc, List.idxOf_append_of_mem known, List.idxOf_append, if_neg new]
  have within := List.idxOf_lt_length_of_mem known
  omega

end Term

/-! ## Lines -/

/-- The lines of a text, each of which ends with a newline. -/
def lines (text : String) : List String :=
  (text.toList.splitOn '\n').dropLast.map String.ofList

theorem intercalate_concat_nil {α : Type} {sep : List α} {ls : List (List α)}
    (nonempty : ls ≠ []) : sep.intercalate (ls ++ [[]]) = sep.intercalate ls ++ sep := by
  induction ls with
  | nil => exact (nonempty rfl).elim
  | cons l ls ih =>
    cases ls with
    | nil => simp
    | cons m ls =>
      rw [List.cons_append, List.cons_append, List.intercalate_cons_cons,
        List.intercalate_cons_cons, ← List.cons_append, ih nofun]
      simp only [List.append_assoc]

/-- Lines that are printed one below the other are the lines of the text. -/
theorem lines_intercalate {ls : List String} (nonempty : ls ≠ [])
    (single : ∀ l ∈ ls, '\n' ∉ l.toList) : lines ("\n".intercalate ls ++ "\n") = ls := by
  have given : ls.map String.toList ≠ [] := by simpa using nonempty
  have cut : ∀ l ∈ ls.map String.toList ++ [[]], '\n' ∉ l := by
    intro l member
    rcases List.mem_append.1 member with inside | last
    · obtain ⟨line, listed, rfl⟩ := List.mem_map.1 inside
      exact single line listed
    · rw [List.mem_singleton.1 last]
      exact List.not_mem_nil
  have chars : ("\n".intercalate ls ++ "\n").toList =
      ['\n'].intercalate (ls.map String.toList ++ [[]]) := by
    rw [String.toList_append, String.toList_intercalate, intercalate_concat_nil given]
    rfl
  rw [lines, chars, List.splitOn_intercalate '\n' cut (by simp), List.dropLast_concat, List.map_map]
  simp

namespace CommandLine

/-! ## What the command prints -/

/-- The lines are a list of the free names of `t`, one name a line, with one empty line if there is
none. -/
structure ListsFree (t : Term) (ls : List String) : Prop where
  listed : ls = if t.freeNames = [] then [""] else t.freeNames.eraseDups
  distinct : ls.Nodup
  /-- The lines stand in order of first free occurrence. -/
  ordered : ls.Pairwise fun x y => t.freeNames.idxOf x < t.freeNames.idxOf y
  free_iff : ∀ y, Term.isFree y t = true ↔ y ∈ ls ∧ y ≠ ""
  closed_iff : ls = [""] ↔ t.freeNames = []

/-- Names that are not empty are told from the empty line. -/
theorem listsFree {t : Term} (named : "" ∉ t.freeNames) :
    ListsFree t (if t.freeNames = [] then [""] else t.freeNames.eraseDups) := by
  by_cases closed : t.freeNames = []
  · rw [if_pos closed]
    refine ⟨(if_pos closed).symm, List.nodup_singleton "", List.pairwise_singleton _ "", ?_, ?_⟩
    · intro y
      rw [Term.isFree_eq_true, closed, List.mem_singleton]
      exact ⟨nofun, fun line => (line.2 line.1).elim⟩
    · exact ⟨fun _ => closed, fun _ => rfl⟩
  · rw [if_neg closed]
    refine ⟨(if_neg closed).symm, Term.nodup_eraseDups _, Term.pairwise_idxOf_eraseDups _, ?_, ?_⟩
    · intro y
      rw [Term.isFree_eq_true, List.mem_eraseDups]
      refine ⟨fun free => ⟨free, ?_⟩, And.left⟩
      rintro rfl
      exact named free
    · refine ⟨fun single => ?_, fun none => (closed none).elim⟩
      have member : "" ∈ t.freeNames.eraseDups := single ▸ List.mem_singleton_self ""
      exact (named (List.mem_eraseDups.1 member)).elim

/-- Where there is no name an empty line is printed. -/
theorem lines_names {names : List String} (single : ∀ y ∈ names, '\n' ∉ y.toList) :
    lines ("\n".intercalate names ++ "\n") = if names = [] then [""] else names := by
  split
  · next empty =>
    subst empty
    exact @lines_intercalate [""] nofun (List.forall_mem_singleton.2 List.not_mem_nil)
  · next given => exact lines_intercalate given single

section FreeNames

variable {args : List String} {options : Options} {arg : String} {level : LogLevel}
  {sources : Sources} {t : Term}

/-- An argument reads as the term that its source reads as. -/
theorem termOf_eq_ok {before : List String} : termOf sources before arg = .ok t ↔
    ∃ source, sourceOf sources before arg = .ok source ∧ Term.parseChars source.chars = .ok t := by
  unfold termOf
  cases sourceOf sources before arg with
  | error failure => exact ⟨nofun, nofun⟩
  | ok source =>
    dsimp only
    cases parsed : Term.parseChars source.chars with
    | error e =>
      refine ⟨nofun, ?_⟩
      rintro ⟨_, ⟨⟩, reads⟩
      rw [parsed] at reads
      cases reads
    | ok u =>
      constructor
      · rintro ⟨⟩
        exact ⟨source, rfl, parsed⟩
      · rintro ⟨_, ⟨⟩, reads⟩
        exact congrArg _ (Except.ok.inj (parsed.symm.trans reads))

/-- A free name of a term that was read from an argument is an identifier. -/
theorem isIdentifier_of_termOf {before : List String} (reads : termOf sources before arg = .ok t)
    {y : String} (free : y ∈ t.freeNames) : IsIdentifier y := by
  obtain ⟨source, -, read⟩ := termOf_eq_ok.1 reads
  exact Term.isIdentifier_of_parseChars read (Term.mem_names_of_mem_freeNames free)

/-- The call prints the free names, each on a line of its own. -/
theorem run_free (accepted : Accepted args .freeNames options [arg] level)
    (asText : options.format = .text) (reads : termOf sources [] arg = .ok t) :
    (run args sources).exit = 0 ∧
      (run args sources).stdout = "\n".intercalate t.freeNames.eraseDups ++ "\n" := by
  have ending := accepted.ending sources
  have read : readArgs sources [] (Command.termArgs .freeNames [arg]) = ([t], none) := by
    simp [Command.termArgs, readArgs, reads]
  rw [read] at ending
  dsimp only at ending
  generalize run args sources = report at ending ⊢
  cases ending with
  | stuck isStep => cases isStep
  | printed gives log =>
    cases gives
    rw [asText]
    exact ⟨rfl, rfl⟩

end FreeNames

/-- The free names of a term are the names of its free occurrences from left to right, one entry for
each, which is what one traversal with the names of the binders above finds.  The command `free`
prints them as text without later repetitions, one name a line.  The lines of what it prints are
distinct and in order of first free occurrence, and a name is free in the term exactly if it is one
of the lines and not empty.  There is a single empty line exactly if the term is closed. -/
theorem free_lists_unbound_names :
    (∀ t : Term, t.freeNames = t.unboundNames [] ∧
      t.freeNames = (t.occurrences.filter (·.IsFree)).map Occurrence.name) ∧
    ∀ {args : List String} {options : Options} {arg : String} {level : LogLevel}
      {sources : Sources} {t : Term}, Accepted args .freeNames options [arg] level →
      options.format = .text → termOf sources [] arg = .ok t →
      (run args sources).exit = 0 ∧
      (run args sources).stdout = "\n".intercalate t.freeNames.eraseDups ++ "\n" ∧
      ListsFree t (lines (run args sources).stdout) := by
  refine ⟨fun t => ⟨t.freeNames_eq_unboundNames, t.freeNames_eq_map_occurrences⟩, ?_⟩
  intro args options arg level sources t accepted asText reads
  obtain ⟨exits, prints⟩ := run_free accepted asText reads
  refine ⟨exits, prints, ?_⟩
  have named : "" ∉ t.freeNames := fun free => (isIdentifier_of_termOf reads free).1 rfl
  have single : ∀ y ∈ t.freeNames.eraseDups, '\n' ∉ y.toList := by
    intro y listed newline
    obtain ⟨-, ident, -, -⟩ := isIdentifier_of_termOf reads (List.mem_eraseDups.1 listed)
    exact absurd (ident '\n' newline) (by decide)
  have none : t.freeNames.eraseDups = [] ↔ t.freeNames = [] := by
    simp only [List.eq_nil_iff_forall_not_mem, List.mem_eraseDups]
  rw [prints, lines_names single]
  simp only [none]
  exact listsFree named

/-- In `λx.(((y x) (λy.(z y))) y)` the second of three `y` is bound, and the other two are one line.
For `λx.x` on the standard input the line is empty. -/
theorem free_lists_unbound_names_open_and_closed :
    let sources : Sources :=
      ⟨Text.ofString "\\x.x\n", fun path => .error ⟨.openFile, Text.ofString path, .missing⟩⟩
    (run ["free", "\\x.(y x (\\y.(z y)) y)"] sources).stdout = "y\nz\n" ∧
      lines (run ["free", "\\x.(y x (\\y.(z y)) y)"] sources).stdout = ["y", "z"] ∧
      lines (run ["free", "-"] sources).stdout = [""] := by
  intro sources
  let t : Term := .abs "x" (.app (.app (.app (.var "y") (.var "x"))
    (.abs "y" (.app (.var "z") (.var "y")))) (.var "y"))
  have reads : termOf sources [] "\\x.(y x (\\y.(z y)) y)" = .ok t :=
    termOf_eq_ok.2 ⟨_, rfl, by decide +kernel⟩
  have readsClosed : termOf sources [] "-" = .ok (.abs "x" (.var "x")) :=
    termOf_eq_ok.2 ⟨_, rfl, by decide +kernel⟩
  have accepted {arg : String} (plain : IsPlain arg) :
      Accepted ["free", arg] .freeNames Options.initial [arg] .warn :=
    ⟨⟨[arg], rfl, readFlags_of_isPlain _ (by simpa using plain)⟩, rfl, rfl, rfl⟩
  obtain ⟨-, prints, lists⟩ := free_lists_unbound_names.2 (accepted (.inr (by decide))) rfl reads
  obtain ⟨-, -, listsClosed⟩ := free_lists_unbound_names.2 (accepted (.inl rfl)) rfl readsClosed
  exact ⟨prints.trans (by decide), lists.listed.trans (by decide), listsClosed.closed_iff.2 rfl⟩

end CommandLine

end Stepwise
