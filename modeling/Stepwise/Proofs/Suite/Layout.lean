import Stepwise.Proofs.Files.Tree
import Stepwise.Suite.Run

/-!
# What a case leaves in the files

All that is done to the files for a case is to make one folder and to write a few files in it,
whether or not the case turns out to be faulty on the way (`Suite.script_changes`).
`Contents.Holds` says what stands where because of that, and `Contents.Fits` when it can be done
without a fault of the files.

The changes are made one after the other, and `Makes` says that none of them fails.  So what each
kind of change does to the files is told once, and what a list of them does follows by induction.

`Contents.Fits` and `Contents.Holds` tell everything about writing a case: no change fails exactly
if the case fits (`Suite.fileFaultFree_writeCase`), and then its own places hold what it puts there
and all others are as before (`Suite.get?_writeCase`).
-/

open Stepwise.Path

namespace Stepwise

namespace Suite

open FileTree

/-! ## Changes one after the other -/

/-- All the changes can be made to `tree`, and then it is `tree'`. -/
def Makes (tree : FileTree) (changes : List Change) (tree' : FileTree) : Prop :=
  (Disk.ofTree.runChanges changes).run tree = (none, tree')

section Makes

variable {tree tree' : FileTree} {changes later : List Change}

theorem makes_nil : Makes tree [] tree' ↔ tree' = tree := by
  constructor
  · intro made
    cases made
    rfl
  · rintro rfl
    rfl

theorem run_runChanges_cons (change : Change) :
    (Disk.ofTree.runChanges (change :: changes)).run tree =
      match change.apply tree with
      | .ok next => (Disk.ofTree.runChanges changes).run next
      | .error fault => (some fault, tree) := by
  rw [Disk.runChanges, StateT.run_bind]
  unfold Disk.ofTree
  dsimp only [StateT.run]
  cases change.apply tree <;> rfl

theorem makes_cons {change : Change} : Makes tree (change :: changes) tree' ↔
    ∃ next, change.apply tree = .ok next ∧ Makes next changes tree' := by
  rw [Makes, run_runChanges_cons]
  cases change.apply tree with
  | error fault => exact ⟨nofun, nofun⟩
  | ok next =>
    constructor
    · exact fun made => ⟨next, rfl, made⟩
    · rintro ⟨_, ⟨⟩, made⟩
      exact made

theorem makes_append : Makes tree (changes ++ later) tree' ↔
    ∃ next, Makes tree changes next ∧ Makes next later tree' := by
  induction changes generalizing tree with
  | nil => simp only [List.nil_append, makes_nil, exists_eq_left]
  | cons change changes ih =>
    simp only [List.cons_append, makes_cons, ih]
    constructor
    · rintro ⟨first, applied, next, made, madeLater⟩
      exact ⟨next, ⟨first, applied, made⟩, madeLater⟩
    · rintro ⟨next, ⟨first, applied, made⟩, madeLater⟩
      exact ⟨first, applied, next, made, madeLater⟩

end Makes

/-! ## Making folders -/

/-- The parts `qs` lead from the folder with the parts `done` some way along `ps`. -/
def Ahead (done ps qs : List Text) : Prop := ∃ front, front ≠ [] ∧ front <+: ps ∧ qs = done ++ front

theorem ahead_nil_left {ps qs : List Text} : Ahead [] ps qs ↔ qs ≠ [] ∧ qs <+: ps := by
  constructor
  · rintro ⟨front, nonempty, isFront, rfl⟩
    exact ⟨nonempty, isFront⟩
  · rintro ⟨nonempty, isFront⟩
    exact ⟨qs, nonempty, isFront, rfl⟩

theorem not_ahead_nil {done qs : List Text} : ¬ Ahead done [] qs := by
  rintro ⟨front, nonempty, isFront, -⟩
  exact nonempty (List.prefix_nil.1 isFront)

theorem ahead_cons {done ps qs : List Text} {p : Text} :
    Ahead done (p :: ps) qs ↔ qs = done ++ [p] ∨ Ahead (done ++ [p]) ps qs := by
  constructor
  · rintro ⟨front, nonempty, isFront, rfl⟩
    cases front with
    | nil => exact (nonempty rfl).elim
    | cons q front =>
      obtain ⟨rfl, isFrontLater⟩ := List.cons_prefix_cons.1 isFront
      by_cases last : front = []
      · exact .inl (by rw [last])
      · exact .inr ⟨front, last, isFrontLater, by rw [List.append_assoc, List.singleton_append]⟩
  · rintro (rfl | ⟨front, -, isFront, rfl⟩)
    · exact ⟨[p], nofun, by simp, rfl⟩
    · refine ⟨p :: front, nofun, List.cons_prefix_cons.2 ⟨rfl, isFront⟩, ?_⟩
      rw [List.append_assoc, List.singleton_append]

theorem Ahead.placeOf_ne {done ps qs : List Text} (ahead : Ahead done ps qs) :
    placeOf rooted qs ≠ placeOf rooted done := by
  obtain ⟨front, nonempty, -, rfl⟩ := ahead
  intro same
  exact nonempty (List.append_right_eq_self.1 (placeOf_injective same))

/-- The changes that make the folders along `ps` after the folder with the parts `done`. -/
def folders (rooted : Bool) (done ps : List Text) : List Change :=
  (wayFrom rooted done ps).map .makeFolder

section Folders

variable {tree tree' : FileTree} {rooted : Bool} {done ps : List Text}

theorem folderOr_of_makes_folders {p : Text} (clean : IsClean rooted (done ++ [p]))
    (made : Makes tree (folders rooted done (p :: ps)) tree') :
    tree.FolderOr rooted (done ++ [p]) := by
  obtain ⟨next, applied, -⟩ := makes_cons.1 made
  exact folderOr_of_makeFolder clean applied

/-- The first folder is there or is made, and nothing else changes. -/
theorem makes_folders_cons {p : Text} (ps : List Text) (clean : IsClean rooted (done ++ [p]))
    (leads : tree.Leads rooted done) (can : tree.FolderOr rooted (done ++ [p])) :
    ∃ next : FileTree, next.Leads rooted (done ++ [p]) ∧
      (∀ place, place ≠ placeOf rooted (done ++ [p]) → next.get? place = tree.get? place) ∧
      ∀ tree', Makes tree (folders rooted done (p :: ps)) tree' ↔
        Makes next (folders rooted (done ++ [p]) ps) tree' := by
  obtain ⟨next, made, leadsNext, kept⟩ := exists_makeFolder_eq_ok clean leads can
  refine ⟨next, leadsNext, kept, fun tree' => makes_cons.trans ⟨?_, fun rest => ⟨next, made, rest⟩⟩⟩
  rintro ⟨_, applied, rest⟩
  cases made.symm.trans applied
  exact rest

/-- Folders can be made if each on the way is there or can be made. -/
theorem exists_makes_folders (clean : IsClean rooted (done ++ ps))
    (leads : tree.Leads rooted done) :
    (∃ tree', Makes tree (folders rooted done ps) tree') ↔
      ∀ qs, Ahead done ps qs → tree.FolderOr rooted qs := by
  induction ps generalizing tree done with
  | nil =>
    constructor
    · intro _ qs ahead
      exact (not_ahead_nil ahead).elim
    · intro _
      exact ⟨tree, makes_nil.2 rfl⟩
  | cons p ps ih =>
    have cleanNext : IsClean rooted ((done ++ [p]) ++ ps) := by
      rwa [List.append_assoc, List.singleton_append]
    constructor
    · rintro ⟨tree', made⟩ qs ahead
      have can := folderOr_of_makes_folders cleanNext.of_append made
      obtain ⟨next, leadsNext, kept, same⟩ :=
        makes_folders_cons ps cleanNext.of_append leads can
      rcases ahead_cons.1 ahead with rfl | later
      · exact can
      · exact (FolderOr.congr (kept _ later.placeOf_ne)).1
          ((ih cleanNext leadsNext).1 ⟨tree', (same tree').1 made⟩ qs later)
    · intro can
      obtain ⟨next, leadsNext, kept, same⟩ :=
        makes_folders_cons ps cleanNext.of_append leads (can _ (ahead_cons.2 (.inl rfl)))
      simp only [same]
      refine (ih cleanNext leadsNext).2 ?_
      intro qs later
      exact (FolderOr.congr (kept _ later.placeOf_ne)).2 (can qs (ahead_cons.2 (.inr later)))

/-- Making folders makes a folder of every one on the way and touches nothing else. -/
theorem get?_of_makes_folders (clean : IsClean rooted (done ++ ps))
    (leads : tree.Leads rooted done) (made : Makes tree (folders rooted done ps) tree') :
    tree'.Leads rooted (done ++ ps) ∧
      ∀ place, (∀ qs, Ahead done ps qs → place ≠ placeOf rooted qs) →
        tree'.get? place = tree.get? place := by
  induction ps generalizing tree done with
  | nil =>
    cases makes_nil.1 made
    rw [List.append_nil]
    exact ⟨leads, fun _ _ => rfl⟩
  | cons p ps ih =>
    have cleanNext : IsClean rooted ((done ++ [p]) ++ ps) := by
      rwa [List.append_assoc, List.singleton_append]
    have can := folderOr_of_makes_folders cleanNext.of_append made
    obtain ⟨next, leadsNext, kept, same⟩ := makes_folders_cons ps cleanNext.of_append leads can
    obtain ⟨leadsLater, keptLater⟩ := ih cleanNext leadsNext ((same tree').1 made)
    rw [List.append_assoc, List.singleton_append] at leadsLater
    refine ⟨leadsLater, ?_⟩
    intro place off
    rw [keptLater place fun qs later => off qs (ahead_cons.2 (.inr later))]
    exact kept place (off _ (ahead_cons.2 (.inl rfl)))

end Folders

/-! ## Writing files in a folder -/

/-- A file with the given name can be written in the folder with the given parts. -/
def CanWrite (tree : FileTree) (rooted : Bool) (ps : List Text) (name : Text) : Prop :=
  FitsAt rooted (ps ++ [name]) ∧ tree.get? (placeOf rooted (ps ++ [name])) ≠ some .folder

/-- The changes that write files in the folder with the given parts. -/
def writes (rooted : Bool) (ps : List Text) (files : List (Text × String)) : List Change :=
  files.map fun f => .write (ofParts rooted (ps ++ [f.1])) f.2

section Writes

variable {tree tree' : FileTree} {rooted : Bool} {ps : List Text} {files : List (Text × String)}

theorem placeOf_concat_injective {name other : Text}
    (same : placeOf rooted (ps ++ [name]) = placeOf rooted (ps ++ [other])) : name = other :=
  List.singleton_inj.1 (List.append_cancel_left (placeOf_injective same))

theorem placeOf_concat_ne_of_not_mem {f g : Text × String} (new : f.1 ∉ files.map Prod.fst)
    (member : g ∈ files) : placeOf rooted (ps ++ [g.1]) ≠ placeOf rooted (ps ++ [f.1]) := by
  intro same
  exact new (placeOf_concat_injective same ▸ List.mem_map_of_mem member)

theorem CanWrite.congr {next : FileTree} {name : Text}
    (same : next.get? (placeOf rooted (ps ++ [name])) = tree.get? (placeOf rooted (ps ++ [name]))) :
    CanWrite next rooted ps name ↔ CanWrite tree rooted ps name := by
  rw [CanWrite, CanWrite, same]

/-- A file that can be written is put in its place. -/
theorem makes_writes_cons {f : Text × String} (clean : IsClean rooted (ps ++ [f.1]))
    (leads : tree.Leads rooted ps) :
    Makes tree (writes rooted ps (f :: files)) tree' ↔
      CanWrite tree rooted ps f.1 ∧
        Makes (tree.put (placeOf rooted (ps ++ [f.1])) (.file (Text.ofString f.2)))
          (writes rooted ps files) tree' := by
  rw [writes, List.map_cons, makes_cons]
  constructor
  · rintro ⟨next, applied, rest⟩
    obtain ⟨fits, -, notFolder, rfl⟩ := (write_eq_ok clean).1 applied
    exact ⟨⟨fits, notFolder⟩, rest⟩
  · rintro ⟨⟨fits, notFolder⟩, rest⟩
    exact ⟨_, (write_eq_ok clean).2 ⟨fits, leads, notFolder, rfl⟩, rest⟩

section Files

variable (clean : ∀ f ∈ files, IsClean rooted (ps ++ [f.1]))
  (distinct : (files.map Prod.fst).Nodup) (leads : tree.Leads rooted ps)

include clean distinct leads

/-- Files with different names can be written one after the other if each alone can be. -/
theorem exists_makes_writes :
    (∃ tree', Makes tree (writes rooted ps files) tree') ↔
      ∀ f ∈ files, CanWrite tree rooted ps f.1 := by
  induction files generalizing tree with
  | nil => exact ⟨fun _ => nofun, fun _ => ⟨tree, makes_nil.2 rfl⟩⟩
  | cons f files ih =>
    have cleanLater g later := clean g (List.mem_cons_of_mem f later)
    obtain ⟨new, distinctLater⟩ := List.nodup_cons.1 distinct
    simp only [makes_writes_cons (clean f List.mem_cons_self) leads, exists_and_left]
    rw [List.forall_mem_cons, ih cleanLater distinctLater (leads.put f.1 _)]
    refine and_congr_right fun _ => forall₂_congr fun g later => ?_
    -- Writing the first file changes nothing about the others, which have other names.
    exact CanWrite.congr (get?_put_of_ne _ (placeOf_concat_ne_of_not_mem new later))

/-- Written files hold their contents, and all other places are as before. -/
theorem get?_of_makes_writes (made : Makes tree (writes rooted ps files) tree') :
    (∀ f ∈ files,
      tree'.get? (placeOf rooted (ps ++ [f.1])) = some (.file (Text.ofString f.2))) ∧
    ∀ place, (∀ f ∈ files, place ≠ placeOf rooted (ps ++ [f.1])) →
      tree'.get? place = tree.get? place := by
  induction files generalizing tree with
  | nil =>
    cases makes_nil.1 made
    exact ⟨nofun, fun _ _ => rfl⟩
  | cons f files ih =>
    obtain ⟨new, distinctLater⟩ := List.nodup_cons.1 distinct
    obtain ⟨can, rest⟩ := (makes_writes_cons (clean f List.mem_cons_self) leads).1 made
    obtain ⟨held, others⟩ := ih (fun g later => clean g (List.mem_cons_of_mem f later))
      distinctLater (leads.put f.1 _) rest
    refine ⟨?_, ?_⟩
    · intro g member
      rcases List.mem_cons.1 member with rfl | later
      · rw [others _ fun g later => (placeOf_concat_ne_of_not_mem new later).symm]
        exact get?_put_self _ (isOuter_eq_false can.2)
      · exact held g later
    · intro place off
      rw [others place fun g later => off g (List.mem_cons_of_mem f later)]
      exact get?_put_of_ne _ (off f List.mem_cons_self)

end Files

end Writes

/-! ## Contents of a folder -/

/-- The names of the files in the folder of a case. -/
def fileNames : List Text := [inputFile, outputFile, testFile]

/-- The files in the folder of a case with their contents. -/
structure Contents where
  files : List (Text × String)
  names : (files.map Prod.fst).Sublist fileNames

namespace Contents

variable {k : Contents} {folder : Text} {tree tree' : FileTree}

theorem isSegment {f : Text × String} (member : f ∈ k.files) : IsSegment f.1 := by
  have segments : ∀ name ∈ fileNames, IsSegment name := by decide
  exact segments f.1 (k.names.subset (List.mem_map_of_mem member))

theorem distinct (k : Contents) : (k.files.map Prod.fst).Nodup := by
  have differ : fileNames.Nodup := by decide
  exact differ.sublist k.names

theorem isClean {f : Text × String} (folder : Text) (member : f ∈ k.files) :
    IsClean (isRooted folder) (cleanParts folder ++ [f.1]) :=
  (isClean_cleanParts folder).append_segment (isSegment member)

/-- The changes that make a folder and write the files in it. -/
def changes (k : Contents) (folder : Text) : List Change :=
  (way folder).map .makeFolder ++ k.files.map fun f => .write (join folder f.1) f.2

theorem changes_eq (k : Contents) (named : folder ≠ []) : k.changes folder =
    folders (isRooted folder) [] (cleanParts folder) ++
      writes (isRooted folder) (cleanParts folder) k.files := by
  rw [changes, way, if_neg named, writes]
  refine congrArg _ (List.map_congr_left ?_)
  intro f member
  rw [join_segment folder (isSegment member)]

/-- The empty path is no folder and cannot be made one. -/
theorem not_makes_nil : ¬ Makes tree (k.changes []) tree' := by
  intro made
  obtain ⟨next, applied, -⟩ := makes_cons.1 made
  cases applied

/-- What stands where when the files have been written in a folder. -/
inductive Holds (k : Contents) (folder : Text) : Place → FileNode → Prop
  | folder {qs : List Text} (nonempty : qs ≠ []) (isFront : qs <+: cleanParts folder) :
    Holds k folder (placeOf (isRooted folder) qs) .folder
  | file {f : Text × String} (member : f ∈ k.files) :
    Holds k folder (placeOf (isRooted folder) (cleanParts folder ++ [f.1]))
      (.file (Text.ofString f.2))

/-- The folder is there or can be made, and the files can be written in it. -/
structure Fits (k : Contents) (folder : Text) (tree : FileTree) : Prop where
  named : folder ≠ []
  folders : ∀ qs, qs ≠ [] → qs <+: cleanParts folder → tree.FolderOr (isRooted folder) qs
  files : ∀ f ∈ k.files, CanWrite tree (isRooted folder) (cleanParts folder) f.1

theorem Fits.imp {next : FileTree} (fits : k.Fits folder tree)
    (folders : ∀ qs, qs ≠ [] → qs <+: cleanParts folder →
      tree.FolderOr (isRooted folder) qs → next.FolderOr (isRooted folder) qs)
    (files : ∀ f ∈ k.files, CanWrite tree (isRooted folder) (cleanParts folder) f.1 →
      CanWrite next (isRooted folder) (cleanParts folder) f.1) : k.Fits folder next where
  named := fits.named
  folders qs nonempty isFront := folders qs nonempty isFront (fits.folders qs nonempty isFront)
  files f member := files f member (fits.files f member)

/-- Making the folder leaves the places of the files as they are. -/
theorem get?_of_makes_folders
    (made : Makes tree (folders (isRooted folder) [] (cleanParts folder)) tree') :
    tree'.Leads (isRooted folder) (cleanParts folder) ∧
      ∀ place, (∀ qs, qs ≠ [] → qs <+: cleanParts folder → place ≠ placeOf (isRooted folder) qs) →
        tree'.get? place = tree.get? place := by
  obtain ⟨leads, kept⟩ :=
    Suite.get?_of_makes_folders (isClean_cleanParts folder) (leads_nil tree _) made
  refine ⟨leads, ?_⟩
  intro place off
  refine kept place fun qs ahead => ?_
  obtain ⟨nonempty, isFront⟩ := ahead_nil_left.1 ahead
  exact off qs nonempty isFront

theorem canWrite_of_makes_folders {name : Text}
    (made : Makes tree (folders (isRooted folder) [] (cleanParts folder)) tree') :
    CanWrite tree' (isRooted folder) (cleanParts folder) name ↔
      CanWrite tree (isRooted folder) (cleanParts folder) name := by
  refine CanWrite.congr ((get?_of_makes_folders made).2 _ ?_)
  intro qs _ isFront
  exact (placeOf_concat_ne name isFront).symm

theorem exists_makes : (∃ tree', Makes tree (k.changes folder) tree') ↔ k.Fits folder tree := by
  by_cases named : folder = []
  · subst named
    exact ⟨fun ⟨_, made⟩ => (not_makes_nil made).elim, fun fits => (fits.named rfl).elim⟩
  · have making : (∃ next, Makes tree (folders (isRooted folder) [] (cleanParts folder)) next) ↔
        ∀ qs, qs ≠ [] → qs <+: cleanParts folder → tree.FolderOr (isRooted folder) qs := by
      refine (exists_makes_folders (isClean_cleanParts folder) (leads_nil tree _)).trans ?_
      simp only [ahead_nil_left, and_imp]
    have writing {next : FileTree}
        (made : Makes tree (folders (isRooted folder) [] (cleanParts folder)) next) :=
      exists_makes_writes (fun f member => isClean folder member) k.distinct
        (get?_of_makes_folders made).1
    simp only [changes_eq k named, makes_append]
    constructor
    · rintro ⟨tree', next, made, written⟩
      have can := (writing made).1 ⟨tree', written⟩
      exact ⟨named, making.1 ⟨next, made⟩,
        fun f member => (canWrite_of_makes_folders made).1 (can f member)⟩
    · intro fits
      obtain ⟨next, made⟩ := making.2 fits.folders
      obtain ⟨tree', written⟩ := (writing made).2 fun f member =>
        (canWrite_of_makes_folders made).2 (fits.files f member)
      exact ⟨tree', next, made, written⟩

/-- Writing puts what the contents hold in its places and leaves all others as they are. -/
theorem get?_of_makes (done : Makes tree (k.changes folder) tree') :
    (∀ place node, k.Holds folder place node → tree'.get? place = some node) ∧
      ∀ place, (∀ node, ¬ k.Holds folder place node) → tree'.get? place = tree.get? place := by
  have named : folder ≠ [] := by
    rintro rfl
    exact not_makes_nil done
  rw [changes_eq k named, makes_append] at done
  obtain ⟨next, made, written⟩ := done
  obtain ⟨leads, kept⟩ := get?_of_makes_folders made
  obtain ⟨held, others⟩ := get?_of_makes_writes (fun f member => isClean folder member)
    k.distinct leads written
  refine ⟨?_, ?_⟩
  · intro place node holds
    cases holds with
    | folder nonempty isFront =>
      rw [others _ fun f _ => placeOf_concat_ne f.1 isFront]
      exact leads _ isFront
    | file member => exact held _ member
  · intro place free
    have noFile : ∀ f ∈ k.files,
        place ≠ placeOf (isRooted folder) (cleanParts folder ++ [f.1]) := by
      rintro f member rfl
      exact free _ (.file member)
    have noFolder : ∀ qs, qs ≠ [] → qs <+: cleanParts folder →
        place ≠ placeOf (isRooted folder) qs := by
      rintro qs nonempty isFront rfl
      exact free _ (.folder nonempty isFront)
    rw [others place noFile, kept place noFolder]

end Contents

/-! ## Contents for a case -/

/-- What is written for a case, if anything is. -/
def contents? (c : Case) : Option Contents :=
  match Strategy.ofName? c.strategy.shown, Term.parseChars c.input.chars with
  | some _, .ok input =>
    if c.output.isEmpty then
      some ⟨[(inputFile, input.text), (testFile, stuckTest c)], stuckNames⟩
    else
      match Term.parseChars c.output.chars with
      | .error _ => some ⟨[(inputFile, input.text)], inputNames⟩
      | .ok output =>
        some ⟨[(inputFile, input.text), (outputFile, output.text), (testFile, stepTest c)],
          .refl _⟩
  | _, _ => none
where
  inputNames : [inputFile].Sublist fileNames := by decide
  stuckNames : [inputFile, testFile].Sublist fileNames := by decide

/-- The strategy of the case is known, its input can be read, and its output is empty or can be
read. -/
def isSound (c : Case) : Bool :=
  (Strategy.ofName? c.strategy.shown).isSome && (Term.parseChars c.input.chars).isOk &&
    (c.output.isEmpty || (Term.parseChars c.output.chars).isOk)

theorem isSound_iff {c : Case} : isSound c = true ↔
    (∃ strategy, Strategy.ofName? c.strategy.shown = some strategy) ∧
      (∃ t, Term.parseChars c.input.chars = .ok t) ∧
      (c.output = [] ∨ ∃ u, Term.parseChars c.output.chars = .ok u) := by
  have isOk {r : Except SyntaxError Term} : r.isOk = true ↔ ∃ t, r = .ok t := by
    cases r <;> simp [Except.isOk, Except.toBool]
  rw [isSound, Bool.and_eq_true, Bool.and_eq_true, Bool.or_eq_true, Option.isSome_iff_exists, isOk,
    isOk, List.isEmpty_iff, and_assoc]

section Case

variable (base : Text) (c : Case)

/-- Whatever is wrong with a case, its changes are those that write its contents. -/
theorem script_changes : (script base c).changes =
    (contents? c).elim [] fun k => k.changes (join base c.name) := by
  unfold script contents?
  cases Strategy.ofName? c.strategy.shown with
  | none => cases Term.parseChars c.input.chars <;> rfl
  | some strategy =>
    cases Term.parseChars c.input.chars with
    | error => rfl
    | ok input =>
      dsimp only
      split
      · exact List.append_assoc _ _ _
      · cases Term.parseChars c.output.chars with
        | error => rfl
        | ok output => exact List.append_assoc _ _ _

theorem script_fault_eq_none : (script base c).fault = none ↔ isSound c = true := by
  unfold script isSound
  cases Strategy.ofName? c.strategy.shown with
  | none => cases Term.parseChars c.input.chars <;> simp
  | some strategy =>
    cases Term.parseChars c.input.chars with
    | error => simp [Except.isOk, Except.toBool]
    | ok input =>
      dsimp only
      split
      · next empty => simp [empty, Except.isOk, Except.toBool]
      · next given =>
        cases Term.parseChars c.output.chars <;> simp [given, Except.isOk, Except.toBool]

theorem script_fault_ne_file (fault : FileFault) : (script base c).fault ≠ some (.file fault) := by
  unfold script
  split
  · nofun
  · nofun
  · dsimp only
    split
    · nofun
    · split <;> nofun

end Case

/-- No change to the files failed. -/
def FileFaultFree (r : FileTree × Option CaseFault) : Prop := ∀ fault, r.2 ≠ some (.file fault)

instance : (r : FileTree × Option CaseFault) → Decidable (FileFaultFree r)
  | (_, some (.file fault)) => isFalse fun free => free fault rfl
  | (_, none) => isTrue fun _ => nofun
  | (_, some (.unknownStrategy _)) => isTrue fun _ => nofun
  | (_, some (.input _)) => isTrue fun _ => nofun
  | (_, some (.output _)) => isTrue fun _ => nofun

/-- Writing the case puts the node at the place. -/
def Lays (base : Text) (c : Case) (place : Place) (node : FileNode) : Prop :=
  ∃ k ∈ contents? c, k.Holds (join base c.name) place node

section Write

variable {base : Text} {c : Case} {tree : FileTree}

theorem writeCase_of_makes {tree' : FileTree} (made : Makes tree (script base c).changes tree') :
    writeCase base c tree = (tree', (script base c).fault) := by
  rw [writeCase, Script.run, Disk.runScript, StateT.run_bind, made]
  rfl

theorem fileFaultFree_writeCase_iff_makes : FileFaultFree (writeCase base c tree) ↔
    ∃ tree', Makes tree (script base c).changes tree' := by
  constructor
  · intro free
    cases made : (Disk.ofTree.runChanges (script base c).changes).run tree with
    | mk fault tree' =>
      cases fault with
      | none => exact ⟨tree', made⟩
      | some fault =>
        have failed : (writeCase base c tree).2 = some (.file fault) := by
          rw [writeCase, Script.run, Disk.runScript, StateT.run_bind, made]
          rfl
        exact (free fault failed).elim
  · rintro ⟨tree', made⟩
    rw [writeCase_of_makes made]
    exact script_fault_ne_file base c

/-- No change fails exactly if the contents of the case fit, whether or not the case is faulty. -/
theorem fileFaultFree_writeCase : FileFaultFree (writeCase base c tree) ↔
    ∀ k ∈ contents? c, k.Fits (join base c.name) tree := by
  rw [fileFaultFree_writeCase_iff_makes, script_changes]
  cases contents? c with
  | none => exact ⟨fun _ => nofun, fun _ => ⟨tree, makes_nil.2 rfl⟩⟩
  | some k =>
    rw [Option.elim_some, Contents.exists_makes]
    simp only [Option.mem_some_iff, forall_eq']

section Free

variable (free : FileFaultFree (writeCase base c tree))

include free

theorem writeCase_snd : (writeCase base c tree).2 = (script base c).fault := by
  obtain ⟨tree', made⟩ := fileFaultFree_writeCase_iff_makes.1 free
  rw [writeCase_of_makes made]

/-- A case puts its contents in their places and leaves all others as they are. -/
theorem get?_writeCase :
    (∀ place node, Lays base c place node → (writeCase base c tree).1.get? place = some node) ∧
      ∀ place, (∀ node, ¬ Lays base c place node) →
        (writeCase base c tree).1.get? place = tree.get? place := by
  obtain ⟨tree', made⟩ := fileFaultFree_writeCase_iff_makes.1 free
  rw [writeCase_of_makes made]
  rw [script_changes] at made
  unfold Lays
  cases laid : contents? c with
  | none =>
    rw [laid] at made
    cases makes_nil.1 made
    exact ⟨nofun, fun _ _ => rfl⟩
  | some k =>
    rw [laid] at made
    simp only [Option.mem_some_iff, exists_eq_left']
    exact Contents.get?_of_makes made

end Free

end Write

end Suite

end Stepwise
