import Mathlib.Data.List.Nodup
import Stepwise.Proofs.Suite.Layout

/-!
# Cases do not disturb each other

Cases with different names are written to different folders, and the folders around these are shared
but hold nothing else.  So whether a case can be written, and what it leaves, does not depend on the
cases before it, even on those that fail after some of their files are written.

`Merged` says that a tree holds what it held at the start and what some cases leave, each written
alone.  Writing one more case keeps this (`Merged.add`), and so does a whole run (`Merged.run`),
which makes the order of the cases irrelevant (`Suite.cases_are_independent`).
-/

open Stepwise.Path

namespace Stepwise

namespace Suite

open FileTree

variable {base : Text} {c d : Case} {place : Place} {node : FileNode}

/-! ## Places -/

/-- The place is named in the folder `base`, or lies further inside. -/
def Within (base : Text) (place : Place) : Prop :=
  ∃ name rest, IsSegment name ∧ place = placeOf (isRooted base) (cleanParts base ++ name :: rest)

/-- The place is the folder of the case below `base`, or lies inside. -/
def OfCase (base : Text) (c : Case) (place : Place) : Prop :=
  ∃ rest, place = placeOf (isRooted base) (cleanParts base ++ c.name :: rest)

/-- The place is the folder `base` or lies on the way there. -/
def OnWay (base : Text) (place : Place) : Prop :=
  ∃ qs, qs ≠ [] ∧ qs <+: cleanParts base ∧ place = placeOf (isRooted base) qs

theorem OfCase.within (segment : IsSegment c.name) (own : OfCase base c place) :
    Within base place := by
  obtain ⟨rest, rfl⟩ := own
  exact ⟨c.name, rest, segment, rfl⟩

theorem OfCase.name_eq (first : OfCase base c place) (second : OfCase base d place) :
    c.name = d.name := by
  obtain ⟨rest, rfl⟩ := first
  obtain ⟨rest', same⟩ := second
  exact (List.cons.inj (List.append_cancel_left (placeOf_injective same))).1

theorem OnWay.ne (onWay : OnWay base place) (name : Text) (rest : List Text) :
    place ≠ placeOf (isRooted base) (cleanParts base ++ name :: rest) := by
  rintro rfl
  obtain ⟨qs, -, isFront, same⟩ := onWay
  have length := isFront.length_le
  rw [← placeOf_injective same, List.length_append, List.length_cons] at length
  omega

theorem OnWay.not_ofCase (onWay : OnWay base place) : ¬ OfCase base c place :=
  fun ⟨rest, same⟩ => onWay.ne c.name rest same

/-- The folder of a case lies in `base` under the name of the case. -/
theorem parts_folder (base : Text) (segment : IsSegment c.name) :
    isRooted (join base c.name) = isRooted base ∧
      cleanParts (join base c.name) = cleanParts base ++ [c.name] := by
  have clean := (isClean_cleanParts base).append_segment segment
  have nonempty : cleanParts base ++ [c.name] ≠ [] := by simp
  rw [join_segment base segment]
  exact ⟨isRooted_ofParts clean nonempty, cleanParts_ofParts clean nonempty⟩

theorem ofCase_of_eq_append {rest : List Text} :
    OfCase base c (placeOf (isRooted base) ((cleanParts base ++ [c.name]) ++ rest)) :=
  ⟨rest, by rw [List.append_assoc, List.singleton_append]⟩

/-- What a case lays is a folder on the way to `base` or lies in its own folder. -/
theorem Lays.onWay_or_ofCase (segment : IsSegment c.name) (lays : Lays base c place node) :
    OnWay base place ∧ node = .folder ∨ OfCase base c place := by
  obtain ⟨k, -, holds⟩ := lays
  obtain ⟨rooted, parts⟩ := parts_folder base segment
  cases holds with
  | @folder qs nonempty isFront =>
    rw [rooted]
    rw [parts] at isFront
    rcases List.prefix_concat_iff.1 isFront with rfl | before
    · exact .inr ⟨[], rfl⟩
    · exact .inl ⟨⟨qs, nonempty, before, rfl⟩, rfl⟩
  | file member =>
    rw [rooted, parts]
    exact .inr ofCase_of_eq_append

/-- A case that lays something and can be written finds every folder on the way to `base`, or can
make it. -/
theorem Lays.folderOr {tree : FileTree} {qs : List Text} (lays : Lays base c place node)
    (segment : IsSegment c.name) (free : FileFaultFree (writeCase base c tree)) (nonempty : qs ≠ [])
    (isFront : qs <+: cleanParts base) : tree.FolderOr (isRooted base) qs := by
  obtain ⟨k, holds, -⟩ := lays
  obtain ⟨rooted, parts⟩ := parts_folder base segment
  have fits := fileFaultFree_writeCase.1 free k holds
  rw [← rooted]
  refine fits.folders qs nonempty ?_
  rw [parts]
  exact isFront.trans (List.prefix_append _ _)

/-! ## Trees that hold what cases leave -/

/-- The tree `next` holds what `tree` holds and what each of the cases leaves when it is written
alone. -/
structure Merged (base : Text) (tree : FileTree) (cases : List Case) (next : FileTree) : Prop where
  nodes : ∀ place node, next.get? place = some node ↔
    tree.get? place = some node ∨ ∃ c ∈ cases, Lays base c place node
  free : ∀ c ∈ cases, FileFaultFree (writeCase base c tree)

namespace Merged

variable {tree next : FileTree} {done : List Case}

theorem refl (base : Text) (tree : FileTree) : Merged base tree [] tree := ⟨by simp, nofun⟩

section Next

variable (merged : Merged base tree done next) (segments : ∀ d ∈ done, IsSegment d.name)

include merged segments

/-- The folder of a case that has not been written is as it was. -/
theorem get?_of_ofCase (new : c.name ∉ done.map Case.name) (own : OfCase base c place) :
    next.get? place = tree.get? place := by
  refine Option.ext fun node => ?_
  rw [merged.nodes]
  refine or_iff_left ?_
  rintro ⟨d, member, lays⟩
  rcases lays.onWay_or_ofCase (segments d member) with ⟨onWay, -⟩ | other
  · exact onWay.not_ofCase own
  · exact new (own.name_eq other ▸ List.mem_map_of_mem member)

/-- A folder on the way to `base` is there or can be made if this was so at the start. -/
theorem folderOr_iff {qs : List Text} (nonempty : qs ≠ []) (isFront : qs <+: cleanParts base) :
    next.FolderOr (isRooted base) qs ↔ tree.FolderOr (isRooted base) qs := by
  have onWay : OnWay base (placeOf (isRooted base) qs) := ⟨qs, nonempty, isFront, rfl⟩
  cases start : tree.get? (placeOf (isRooted base) qs) with
  | some node =>
    have kept := (merged.nodes _ node).2 (.inl start)
    exact FolderOr.congr (kept.trans start.symm)
  | none =>
    refine and_congr_right fun _ => iff_of_true ?_ (.inr start)
    cases now : next.get? (placeOf (isRooted base) qs) with
    | none => exact .inr rfl
    | some node =>
      rcases (merged.nodes _ _).1 now with there | ⟨d, member, lays⟩
      · rw [start] at there
        cases there
      · -- Whatever a case has put on the way is a folder.
        rcases lays.onWay_or_ofCase (segments d member) with ⟨-, rfl⟩ | other
        · exact .inl rfl
        · exact (onWay.not_ofCase other).elim

/-- Whether a case can be written does not depend on the cases before it. -/
theorem fileFaultFree_iff (segment : IsSegment c.name) (new : c.name ∉ done.map Case.name) :
    FileFaultFree (writeCase base c next) ↔ FileFaultFree (writeCase base c tree) := by
  obtain ⟨rooted, parts⟩ := parts_folder base segment
  have folders {qs : List Text} (nonempty : qs ≠ [])
      (isFront : qs <+: cleanParts (join base c.name)) :
      next.FolderOr (isRooted (join base c.name)) qs ↔
        tree.FolderOr (isRooted (join base c.name)) qs := by
    rw [rooted]
    rw [parts] at isFront
    rcases List.prefix_concat_iff.1 isFront with rfl | before
    · exact FolderOr.congr (merged.get?_of_ofCase segments new ⟨[], rfl⟩)
    · exact merged.folderOr_iff segments nonempty before
  have files (name : Text) :
      CanWrite next (isRooted (join base c.name)) (cleanParts (join base c.name)) name ↔
        CanWrite tree (isRooted (join base c.name)) (cleanParts (join base c.name)) name := by
    rw [rooted, parts]
    exact CanWrite.congr (merged.get?_of_ofCase segments new ofCase_of_eq_append)
  rw [fileFaultFree_writeCase, fileFaultFree_writeCase]
  refine forall₂_congr fun k _ => ⟨fun fits => ?_, fun fits => ?_⟩
  · exact fits.imp (fun _ nonempty isFront => (folders nonempty isFront).1) fun f _ => (files f.1).1
  · exact fits.imp (fun _ nonempty isFront => (folders nonempty isFront).2) fun f _ => (files f.1).2

section Add

variable (empty : ∀ place, Within base place → tree.get? place = none) (segment : IsSegment c.name)
  (new : c.name ∉ done.map Case.name) (free : FileFaultFree (writeCase base c next))

include empty segment new free

/-- Where a case lays something, nothing else stands. -/
theorem eq_of_lays {own : FileNode} (lays : Lays base c place own)
    (before : next.get? place = some node) : node = own := by
  rcases lays.onWay_or_ofCase segment with ⟨⟨qs, nonempty, isFront, rfl⟩, rfl⟩ | inside
  · rcases (lays.folderOr segment free nonempty isFront).2 with isFolder | absent
    · exact Option.some.inj (before.symm.trans isFolder)
    · rw [absent] at before
      cases before
  · rw [merged.get?_of_ofCase segments new inside, empty place (inside.within segment)] at before
    cases before

/-- One more case adds what it leaves when it is written alone. -/
theorem add : Merged base tree (done ++ [c]) (writeCase base c next).1 := by
  obtain ⟨laid, kept⟩ := get?_writeCase free
  have added : ∀ place node, (writeCase base c next).1.get? place = some node ↔
      next.get? place = some node ∨ Lays base c place node := by
    intro place node
    by_cases lays : ∃ own, Lays base c place own
    · obtain ⟨own, lays⟩ := lays
      rw [laid place own lays]
      constructor
      · intro same
        cases same
        exact .inr lays
      · rintro (before | again)
        · rw [merged.eq_of_lays segments empty segment new free lays before]
        · exact (laid place own lays).symm.trans (laid place node again)
    · rw [kept place (not_exists.1 lays), or_iff_left (not_exists.1 lays node)]
  refine ⟨?_, ?_⟩
  · intro place node
    rw [added, merged.nodes, or_assoc]
    simp only [List.mem_append, List.mem_singleton, or_and_right, exists_or, exists_eq_left]
  · intro d member
    rcases List.mem_append.1 member with before | last
    · exact merged.free d before
    · rw [List.mem_singleton.1 last]
      exact (merged.fileFaultFree_iff segments segment new).1 free

end Add

end Next

end Merged

/-! ## Runs -/

/-- Writing the first case adds it to the tally and leaves the files to the others. -/
theorem run_addCase_cons (tally : Tally) (tree : FileTree) (c : Case) (cases : List Case) :
    ((c :: cases).foldlM (Disk.ofTree.addCase base) tally).run tree =
      (cases.foldlM (Disk.ofTree.addCase base) (tally.add c (writeCase base c tree).2)).run
        (writeCase base c tree).1 := by
  rw [List.foldlM_cons, StateT.run_bind, Disk.addCase, StateT.run_bind]
  rfl

theorem written_add (tally : Tally) (c : Case) {tree : FileTree}
    (free : FileFaultFree (writeCase base c tree)) :
    (tally.add c (writeCase base c tree).2).written =
      tally.written + if isSound c = true then 1 else 0 := by
  rw [writeCase_snd free]
  by_cases sound : isSound c = true
  · rw [(script_fault_eq_none base c).2 sound, if_pos sound]
    rfl
  · have faulty := mt (script_fault_eq_none base c).1 sound
    obtain ⟨fault, failed⟩ := Option.ne_none_iff_exists'.1 faulty
    rw [failed, if_neg sound]
    rfl

/-- No change to the files fails while the cases are written one after the other. -/
def RunsFree (base : Text) : List Case → FileTree → Prop
  | [], _ => True
  | c :: cases, tree =>
    FileFaultFree (writeCase base c tree) ∧ RunsFree base cases (writeCase base c tree).1

instance decidableRunsFree (base : Text) :
    (cases : List Case) → (tree : FileTree) → Decidable (RunsFree base cases tree)
  | [], _ => isTrue trivial
  | c :: cases, tree =>
    have := decidableRunsFree base cases (writeCase base c tree).1
    inferInstanceAs (Decidable (FileFaultFree (writeCase base c tree) ∧ _))

/-- Just the sound cases are counted. -/
theorem written_addCases {cases : List Case} {tally : Tally} {tree : FileTree}
    (free : RunsFree base cases tree) :
    ((cases.foldlM (Disk.ofTree.addCase base) tally).run tree).1.written =
      tally.written + cases.countP isSound := by
  induction cases generalizing tally tree with
  | nil => rfl
  | cons c cases ih =>
    obtain ⟨first, later⟩ := free
    rw [run_addCase_cons, ih later, written_add tally c first, List.countP_cons]
    omega

/-- Cases whose folders in `base` are different. -/
structure Apart (cases : List Case) : Prop where
  segments : ∀ c ∈ cases, IsSegment c.name
  distinct : (cases.map Case.name).Nodup

theorem Apart.perm {cases others : List Case} (apart : Apart cases) (perm : others.Perm cases) :
    Apart others where
  segments c member := apart.segments c (perm.mem_iff.1 member)
  distinct := (perm.map Case.name).nodup_iff.2 apart.distinct

theorem Apart.new {done cases : List Case} (apart : Apart (done ++ c :: cases)) :
    c.name ∉ done.map Case.name := by
  have distinct := apart.distinct
  rw [List.map_append, List.map_cons] at distinct
  intro member
  exact (List.nodup_append.1 distinct).2.2 _ member _ List.mem_cons_self rfl

theorem Apart.left {done cases : List Case} (apart : Apart (done ++ cases)) :
    ∀ d ∈ done, IsSegment d.name :=
  fun d member => apart.segments d (List.mem_append_left cases member)

namespace Merged

variable {tree : FileTree} {done cases : List Case}
  (empty : ∀ place, Within base place → tree.get? place = none)

include empty

/-- A run has no fault of the files if no case alone has one. -/
theorem runsFree_iff {next : FileTree} (merged : Merged base tree done next)
    (apart : Apart (done ++ cases)) :
    RunsFree base cases next ↔ ∀ c ∈ cases, FileFaultFree (writeCase base c tree) := by
  induction cases generalizing done next with
  | nil => exact ⟨fun _ => nofun, fun _ => trivial⟩
  | cons c cases ih =>
    have segment : IsSegment c.name := apart.segments c (by simp)
    have segments := apart.left
    have same := merged.fileFaultFree_iff segments segment apart.new
    have apartNext : Apart ((done ++ [c]) ++ cases) := by
      rwa [List.append_assoc, List.singleton_append]
    rw [List.forall_mem_cons, ← same, RunsFree]
    refine and_congr_right fun free => ?_
    exact ih (merged.add segments empty segment apart.new free) apartNext

/-- A run without a fault of the files adds what each case leaves when it is written alone. -/
theorem run {tally : Tally} {next : FileTree} (merged : Merged base tree done next)
    (apart : Apart (done ++ cases)) (free : RunsFree base cases next) :
    Merged base tree (done ++ cases)
      ((cases.foldlM (Disk.ofTree.addCase base) tally).run next).2 := by
  induction cases generalizing done tally next with
  | nil =>
    rw [List.append_nil]
    exact merged
  | cons c cases ih =>
    obtain ⟨first, later⟩ := free
    have added := merged.add apart.left empty (apart.segments c (by simp)) apart.new first
    have reassoc : done ++ c :: cases = (done ++ [c]) ++ cases := by
      rw [List.append_assoc, List.singleton_append]
    rw [reassoc] at apart ⊢
    rw [run_addCase_cons]
    exact ih added apart later

end Merged

/-! ## Independence -/

section Independence

variable {tree : FileTree} {cases : List Case} (apart : Apart cases)
  (empty : ∀ place, Within base place → tree.get? place = none)

include apart empty

theorem merged_writeCases (free : RunsFree base cases tree) :
    Merged base tree cases (writeCases base cases tree).tree :=
  @Merged.run base tree [] cases empty .start tree (.refl base tree) apart free

theorem runsFree_iff_alone :
    RunsFree base cases tree ↔ ∀ c ∈ cases, FileFaultFree (writeCase base c tree) :=
  @Merged.runsFree_iff base tree [] cases empty tree (.refl base tree) apart

variable (free : RunsFree base cases tree)

include free

/-- What a case leaves when it is written alone. -/
theorem get?_writeCases_alone (member : c ∈ cases) :
    (writeCases base [c] tree).tree.get? place = some node ↔
      tree.get? place = some node ∨ Lays base c place node := by
  have alone : Apart [c] := by
    refine ⟨List.forall_mem_singleton.2 (apart.segments c member), ?_⟩
    exact List.nodup_singleton c.name
  have freeAlone : RunsFree base [c] tree :=
    ⟨(runsFree_iff_alone apart empty).1 free c member, trivial⟩
  rw [(merged_writeCases alone empty freeAlone).nodes]
  simp only [List.mem_singleton, exists_eq_left]

/-- Another order is without faults too, and leaves the same files. -/
theorem get?_writeCases_perm {others : List Case} (perm : others.Perm cases) :
    RunsFree base others tree ∧ ∀ place, (writeCases base others tree).tree.get? place =
      (writeCases base cases tree).tree.get? place := by
  have alone := (runsFree_iff_alone apart empty).1 free
  have freeOthers : RunsFree base others tree :=
    (runsFree_iff_alone (apart.perm perm) empty).2 fun c member => alone c (perm.mem_iff.1 member)
  refine ⟨freeOthers, fun place => Option.ext fun node => ?_⟩
  rw [(merged_writeCases (apart.perm perm) empty freeOthers).nodes,
    (merged_writeCases apart empty free).nodes]
  simp only [perm.mem_iff]

/-- The files are those that the cases leave when each is written alone. -/
theorem get?_writeCases_iff_alone : (writeCases base cases tree).tree.get? place = some node ↔
    tree.get? place = some node ∨
      ∃ c ∈ cases, (writeCases base [c] tree).tree.get? place = some node := by
  rw [(merged_writeCases apart empty free).nodes]
  constructor
  · rintro (before | ⟨c, member, lays⟩)
    · exact .inl before
    · exact .inr ⟨c, member, (get?_writeCases_alone apart empty free member).2 (.inr lays)⟩
  · rintro (before | ⟨c, member, alone⟩)
    · exact .inl before
    · refine ((get?_writeCases_alone apart empty free member).1 alone).imp_right fun lays => ?_
      exact ⟨c, member, lays⟩

/-- All that a case leaves within `base` lies in its own folder. -/
theorem ofCase_of_get?_alone (member : c ∈ cases) (within : Within base place)
    (alone : (writeCases base [c] tree).tree.get? place = some node) : OfCase base c place := by
  rcases (get?_writeCases_alone apart empty free member).1 alone with before | lays
  · rw [empty place within] at before
    cases before
  · rcases lays.onWay_or_ofCase (apart.segments c member) with ⟨onWay, -⟩ | inside
    · obtain ⟨name, rest, -, same⟩ := within
      exact (onWay.ne name rest same).elim
    · exact inside

theorem get?_alone_disjoint (memberC : c ∈ cases) (memberD : d ∈ cases) (differ : c ≠ d)
    (within : Within base place) :
    (writeCases base [c] tree).tree.get? place = none ∨
      (writeCases base [d] tree).tree.get? place = none := by
  cases first : (writeCases base [c] tree).tree.get? place with
  | none => exact .inl rfl
  | some node =>
    cases second : (writeCases base [d] tree).tree.get? place with
    | none => exact .inr rfl
    | some other =>
      have own := ofCase_of_get?_alone apart empty free memberC within first
      have same := own.name_eq (ofCase_of_get?_alone apart empty free memberD within second)
      exact (differ (List.inj_on_of_nodup_map apart.distinct memberC memberD same)).elim

/-- No other case changes the folder of a case. -/
theorem get?_writeCases_of_ofCase (member : c ∈ cases) (inside : OfCase base c place) :
    (writeCases base cases tree).tree.get? place = (writeCases base [c] tree).tree.get? place := by
  have within := inside.within (apart.segments c member)
  refine Option.ext fun node => ?_
  rw [get?_writeCases_iff_alone apart empty free, empty place within]
  constructor
  · rintro (before | ⟨d, memberD, alone⟩)
    · cases before
    · have same := inside.name_eq (ofCase_of_get?_alone apart empty free memberD within alone)
      rw [List.inj_on_of_nodup_map apart.distinct member memberD same]
      exact alone
  · intro alone
    exact .inr ⟨c, member, alone⟩

end Independence

theorem written_writeCases {tree : FileTree} {cases : List Case} (free : RunsFree base cases tree) :
    (writeCases base cases tree).written = cases.countP isSound := by
  have count := @written_addCases base cases .start tree free
  rwa [show Tally.start.written = 0 from rfl, Nat.zero_add] at count

/-- Cases with different names are written to a folder in which nothing is yet, and no change to the
files fails.  Then any order of the cases leaves the same files and prints the same count.  The
files are those that were there and those that each case leaves alone; within the folder no two
cases leave something at the same place, and the folder of a case holds what the case leaves alone,
whichever cases fail.  The count is the number of sound cases. -/
theorem cases_are_independent (base : Text) (cases : List Case) (tree : FileTree)
    (apart : Apart cases) (empty : ∀ place, Within base place → tree.get? place = none)
    (free : RunsFree base cases tree) :
    (∀ others, others.Perm cases → RunsFree base others tree ∧
      (∀ place, (writeCases base others tree).tree.get? place =
        (writeCases base cases tree).tree.get? place) ∧
      summary (writeCases base others tree).written =
        summary (writeCases base cases tree).written) ∧
    (∀ place node, (writeCases base cases tree).tree.get? place = some node ↔
      tree.get? place = some node ∨
        ∃ c ∈ cases, (writeCases base [c] tree).tree.get? place = some node) ∧
    (∀ c ∈ cases, ∀ d ∈ cases, c ≠ d → ∀ place, Within base place →
      (writeCases base [c] tree).tree.get? place = none ∨
        (writeCases base [d] tree).tree.get? place = none) ∧
    (∀ c ∈ cases, ∀ place, OfCase base c place →
      (writeCases base cases tree).tree.get? place =
        (writeCases base [c] tree).tree.get? place) ∧
    (writeCases base cases tree).written = cases.countP isSound := by
  refine ⟨?_, ?_, ?_, ?_, written_writeCases free⟩
  · intro others perm
    obtain ⟨freeOthers, same⟩ := get?_writeCases_perm apart empty free perm
    refine ⟨freeOthers, same, ?_⟩
    rw [written_writeCases freeOthers, written_writeCases free, perm.countP_eq]
  · intro place node
    exact get?_writeCases_iff_alone apart empty free
  · intro c memberC d memberD differ place within
    exact get?_alone_disjoint apart empty free memberC memberD differ within
  · intro c member place inside
    exact get?_writeCases_of_ofCase apart empty free member inside

/-- Of four cases two fail, one of them after its input is written.  The reverse order leaves the
same files and prints the same count. -/
theorem cases_are_independent_with_failures :
    let base := Text.ofString "out"
    let tree := FileTree.empty.withFile "cases.yaml" []
    let case (name strategy input output : String) : Case :=
      ⟨Text.ofString name, Text.ofString strategy, Text.ofString input, Text.ofString output⟩
    let cases := [case "a" "cbn" "(\\x. x) y" "y", case "b" "no" "x" "(", case "c" "eager" "x" "",
      case "d" "normal" "x y" ""]
    RunsFree base cases tree ∧
      (∀ place, (writeCases base cases.reverse tree).tree.get? place =
        (writeCases base cases tree).tree.get? place) ∧
      summary (writeCases base cases.reverse tree).written = "Generated 2 tests\n" := by
  intro base tree case cases
  have apart : Apart cases := ⟨by decide, by decide⟩
  have empty : ∀ place, Within base place → tree.get? place = none := by
    rintro place ⟨name, rest, -, rfl⟩
    rfl
  have free : RunsFree base cases tree := by decide +kernel
  have sound : cases.countP isSound = 2 := by decide +kernel
  obtain ⟨anyOrder, -, -, -, count⟩ := cases_are_independent base cases tree apart empty free
  obtain ⟨-, same, printed⟩ := anyOrder cases.reverse (List.reverse_perm cases)
  refine ⟨free, same, ?_⟩
  rw [printed, count, sound]
  rfl

end Suite

end Stepwise
