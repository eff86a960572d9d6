import Stepwise.Files.Tree
import Stepwise.Proofs.Files.Path

/-!
# What the operations on file trees do

A clean path leads to the place that has its parts, if every folder on the way is there
(`FileTree.resolve_eq_ok`).  From this each operation gets one law: when it succeeds, and what
stands where afterwards: `FileTree.write_eq_ok`, `FileTree.fetch_eq_ok` and
`FileTree.makeFolder_eq_ok`.

Whether a path fits the limits on names has nothing to do with the tree (`FileTree.FitsAt`), so that
two trees with the same nodes on the way agree on what succeeds.
-/

open Stepwise.Path

namespace Stepwise

namespace FileTree

variable {tree : FileTree} {rooted : Bool}

theorem placeOf_append (rooted : Bool) (ps qs : List Text) :
    placeOf rooted ps ++ qs = placeOf rooted (ps ++ qs) := by
  cases rooted <;> rfl

theorem placeOf_injective {ps qs : List Text} (same : placeOf rooted ps = placeOf rooted qs) :
    ps = qs := by
  cases rooted with
  | false => exact same
  | true => exact (List.cons.inj same).2

theorem placeOf_concat_ne {ps qs : List Text} (name : Text) (isFront : qs <+: ps) :
    placeOf rooted qs ≠ placeOf rooted (ps ++ [name]) := by
  intro same
  have length := isFront.length_le
  rw [placeOf_injective same, List.length_append, List.length_singleton] at length
  omega

/-! ## Nodes -/

theorem get?_of_isOuter {place : Place} (outer : isOuter place = true) :
    tree.get? place = some .folder := if_pos outer

theorem get?_placeOf_nil (tree : FileTree) (rooted : Bool) :
    tree.get? (placeOf rooted []) = some .folder := by
  cases rooted <;> rfl

theorem isOuter_eq_false {place : Place} (notFolder : tree.get? place ≠ some .folder) :
    isOuter place = false := by
  cases outer : isOuter place with
  | false => rfl
  | true => exact (notFolder (get?_of_isOuter outer)).elim

theorem get?_put_self {place : Place} (node : FileNode) (inner : isOuter place = false) :
    (tree.put place node).get? place = some node := by
  rw [get?, inner, if_neg Bool.false_ne_true, put, List.lookup_cons_self]

theorem get?_put_of_ne {place other : Place} (node : FileNode) (differ : other ≠ place) :
    (tree.put place node).get? other = tree.get? other := by
  have passed : (other == place) = false := beq_eq_false_iff_ne.2 differ
  have kept : (tree.nodes.filter (·.1 ≠ place)).lookup other = tree.nodes.lookup other := by
    induction tree.nodes with
    | nil => rfl
    | cons entry nodes ih =>
      obtain ⟨p, n⟩ := entry
      by_cases removed : p = place
      · rw [List.filter_cons_of_neg (by simpa using removed), ih, List.lookup_cons, removed, passed]
      · rw [List.filter_cons_of_pos (by simpa using removed), List.lookup_cons, List.lookup_cons,
          ih]
  unfold get? put
  rw [List.lookup_cons, passed, kept]

/-! ## Following a path -/

theorem enter_placeOf {ps : List Text} {p : Text} (clean : IsClean rooted (ps ++ [p])) :
    enter (placeOf rooted ps) p = placeOf rooted (ps ++ [p]) := by
  obtain ⟨nonempty, notHere, -⟩ := clean.parts p (List.mem_append_right ps List.mem_cons_self)
  unfold enter
  rw [if_neg (not_or.2 ⟨nonempty, notHere⟩)]
  by_cases isUp : p = up
  · subst isUp
    have relative := clean.rooted_eq_false
    subst relative
    have onlyUps : ∀ q ∈ ps, q = up := fun q member => clean.eq_up_of_mem member
    have notRoot : placeOf false ps ≠ [root] := by
      rintro atRoot
      have rootUp := onlyUps root (by rw [show ps = [root] from atRoot]; exact List.mem_cons_self)
      exact absurd rootUp (by decide)
    rw [if_pos rfl, if_neg notRoot, if_pos (by simpa [placeOf] using onlyUps)]
    rfl
  · rw [if_neg isUp, placeOf_append]

/-- Following clean parts succeeds if every folder on the way is there and every part is short
enough, and leads to the place with these parts. -/
theorem walk_eq_ok {done ps : List Text} {place : Place} (clean : IsClean rooted (done ++ ps)) :
    tree.walk (placeOf rooted done) ps = .ok place ↔
      (∀ p ∈ ps, p.octets.length ≤ maxNameLength) ∧
      (∀ front, front <+: ps → front ≠ ps →
        tree.get? (placeOf rooted (done ++ front)) = some .folder) ∧
      place = placeOf rooted (done ++ ps) := by
  induction ps generalizing done with
  | nil =>
    rw [walk, List.append_nil]
    constructor
    · intro led
      cases led
      refine ⟨nofun, ?_, rfl⟩
      intro front isFront proper
      exact (proper (List.prefix_nil.1 isFront)).elim
    · intro shape
      rw [shape.2.2]
  | cons p ps ih =>
    have cleanNext : IsClean rooted ((done ++ [p]) ++ ps) := by
      rwa [List.append_assoc, List.singleton_append]
    have entered := enter_placeOf cleanNext.of_append
    rw [walk]
    constructor
    · intro led
      split at led
      · cases led
      · cases led
      · next atFolder =>
        split at led
        · cases led
        · next short =>
          rw [entered, ih cleanNext, List.append_assoc, List.singleton_append] at led
          obtain ⟨shortLater, folders, lands⟩ := led
          refine ⟨?_, ?_, lands⟩
          · intro q member
            rcases List.mem_cons.1 member with rfl | later
            · exact Nat.le_of_not_lt short
            · exact shortLater q later
          · intro front isFront proper
            cases front with
            | nil => rwa [List.append_nil]
            | cons q front =>
              obtain ⟨rfl, isFrontLater⟩ := List.cons_prefix_cons.1 isFront
              have later := folders front isFrontLater fun same => proper (by rw [same])
              rwa [List.append_assoc, List.singleton_append] at later
    · intro shape
      obtain ⟨short, folders, lands⟩ := shape
      have atFolder := folders [] (List.nil_prefix) nofun
      rw [List.append_nil] at atFolder
      rw [atFolder]
      dsimp only
      rw [if_neg (Nat.not_lt.2 (short p List.mem_cons_self)), entered, ih cleanNext]
      refine ⟨fun q later => short q (List.mem_cons_of_mem p later), ?_, ?_⟩
      · intro front isFront proper
        have later := folders (p :: front) (List.cons_prefix_cons.2 ⟨rfl, isFront⟩)
          fun same => proper (List.cons.inj same).2
        rwa [List.append_assoc, List.singleton_append]
      · rw [lands, List.append_assoc, List.singleton_append]

/-- The path with the given parts keeps within the limits on names and paths. -/
structure FitsAt (rooted : Bool) (ps : List Text) : Prop where
  named : .char '\x00' ∉ ofParts rooted ps
  short : (ofParts rooted ps).octets.length ≤ maxPathLength
  shortParts : ∀ p ∈ ps, p.octets.length ≤ maxNameLength

/-- The folders that lead to the parts are there. -/
def Leads (tree : FileTree) (rooted : Bool) (ps : List Text) : Prop :=
  ∀ front, front <+: ps → tree.get? (placeOf rooted front) = some .folder

theorem leads_nil (tree : FileTree) (rooted : Bool) : tree.Leads rooted [] := by
  intro front isFront
  rw [List.prefix_nil.1 isFront]
  exact get?_placeOf_nil tree rooted

/-- What is put in a folder leaves the way there as it is. -/
theorem Leads.put {ps : List Text} (leads : tree.Leads rooted ps) (name : Text) (node : FileNode) :
    (tree.put (placeOf rooted (ps ++ [name])) node).Leads rooted ps := by
  intro front isFront
  rw [get?_put_of_ne _ (placeOf_concat_ne name isFront)]
  exact leads front isFront

/-- A name in a folder leads to the place with these parts, if the folder is there. -/
theorem resolve_eq_ok {ps : List Text} {name : Text} {place : Place}
    (clean : IsClean rooted (ps ++ [name])) :
    tree.resolve (ofParts rooted (ps ++ [name])) = .ok place ↔
      FitsAt rooted (ps ++ [name]) ∧ tree.Leads rooted ps ∧
        place = placeOf rooted (ps ++ [name]) := by
  have nonempty : ps ++ [name] ≠ [] := by simp
  -- The root is the part before the first slash, which is empty and leads nowhere.
  have walked : tree.walk (origin (ofParts rooted (ps ++ [name])))
      (parts (ofParts rooted (ps ++ [name]))) =
      tree.walk (placeOf rooted []) (ps ++ [name]) := by
    rw [origin, isRooted_ofParts clean nonempty, parts_ofParts clean nonempty]
    cases rooted <;> rfl
  have fronts : (∀ front, front <+: ps ++ [name] → front ≠ ps ++ [name] →
      tree.get? (placeOf rooted ([] ++ front)) = some .folder) ↔ tree.Leads rooted ps := by
    constructor
    · intro folders front isFront
      have proper : front ≠ ps ++ [name] := by
        intro same
        have length := isFront.length_le
        rw [same, List.length_append, List.length_singleton] at length
        omega
      exact folders front (isFront.trans (List.prefix_append ps [name])) proper
    · intro leads front isFront proper
      rw [List.nil_append]
      exact leads front ((List.prefix_concat_iff.1 isFront).resolve_left proper)
  have law := @walk_eq_ok tree rooted [] (ps ++ [name]) place clean
  rw [fronts, List.nil_append] at law
  unfold resolve
  rw [if_neg (ofParts_ne_nil clean nonempty), walked]
  constructor
  · intro led
    split at led
    · cases led
    · next named =>
      split at led
      · cases led
      · next short =>
        obtain ⟨shortParts, leads, lands⟩ := law.1 led
        exact ⟨⟨by simpa using named, Nat.le_of_not_lt short, shortParts⟩, leads, lands⟩
  · intro shape
    obtain ⟨fits, leads, lands⟩ := shape
    rw [if_neg (by simpa using fits.named), if_neg (Nat.not_lt.2 fits.short)]
    exact law.2 ⟨fits.shortParts, leads, lands⟩

/-! ## Files -/

section Files

variable {ps : List Text} {name : Text} (clean : IsClean rooted (ps ++ [name]))

include clean

/-- A file can be written if its folder is there and the file is no folder itself. -/
theorem write_eq_ok {content : Text} {tree' : FileTree} :
    tree.write (ofParts rooted (ps ++ [name])) content = .ok tree' ↔
      FitsAt rooted (ps ++ [name]) ∧ tree.Leads rooted ps ∧
        tree.get? (placeOf rooted (ps ++ [name])) ≠ some .folder ∧
        tree' = tree.put (placeOf rooted (ps ++ [name])) (.file content) := by
  unfold write
  constructor
  · intro written
    split at written
    · cases written
    · next place led =>
      obtain ⟨fits, leads, rfl⟩ := (resolve_eq_ok clean).1 led
      split at written
      · cases written
      · next notFolder =>
        cases written
        exact ⟨fits, leads, notFolder, rfl⟩
  · intro shape
    obtain ⟨fits, leads, notFolder, rfl⟩ := shape
    rw [(resolve_eq_ok clean).2 ⟨fits, leads, rfl⟩]
    dsimp only
    split
    · next isFolder => exact (notFolder isFolder).elim
    · rfl

/-- A file can be read if its folder is there, and gives what stands at its place. -/
theorem fetch_eq_ok {content : Text} :
    tree.fetch (ofParts rooted (ps ++ [name])) = .ok content ↔
      FitsAt rooted (ps ++ [name]) ∧ tree.Leads rooted ps ∧
        tree.get? (placeOf rooted (ps ++ [name])) = some (.file content) := by
  unfold fetch
  constructor
  · intro read
    split at read
    · cases read
    · next place led =>
      obtain ⟨fits, leads, rfl⟩ := (resolve_eq_ok clean).1 led
      split at read
      · cases read
      · cases read
      · next isFile =>
        cases read
        exact ⟨fits, leads, isFile⟩
  · intro shape
    obtain ⟨fits, leads, isFile⟩ := shape
    rw [(resolve_eq_ok clean).2 ⟨fits, leads, rfl⟩]
    dsimp only
    rw [isFile]

end Files

/-! ## Folders -/

/-- The folder with the given parts is there, or nothing is and the path to it can be used. -/
def FolderOr (tree : FileTree) (rooted : Bool) (ps : List Text) : Prop :=
  FitsAt rooted ps ∧
    (tree.get? (placeOf rooted ps) = some .folder ∨ tree.get? (placeOf rooted ps) = none)

/-- Whether a folder can be made depends on its own place only. -/
theorem FolderOr.congr {next : FileTree} {ps : List Text}
    (same : next.get? (placeOf rooted ps) = tree.get? (placeOf rooted ps)) :
    next.FolderOr rooted ps ↔ tree.FolderOr rooted ps := by
  rw [FolderOr, FolderOr, same]

section Folder

variable {ps : List Text} {p : Text} (clean : IsClean rooted (ps ++ [p]))

include clean

/-- A folder is left as it is or made where nothing is, if the folder around it is there. -/
theorem makeFolder_eq_ok {tree' : FileTree} :
    tree.makeFolder (ofParts rooted (ps ++ [p])) = .ok tree' ↔
      FitsAt rooted (ps ++ [p]) ∧ tree.Leads rooted ps ∧
        (tree.get? (placeOf rooted (ps ++ [p])) = some .folder ∧ tree' = tree ∨
          tree.get? (placeOf rooted (ps ++ [p])) = none ∧
            tree' = tree.put (placeOf rooted (ps ++ [p])) .folder) := by
  unfold makeFolder
  constructor
  · intro made
    split at made
    · cases made
    · next place led =>
      obtain ⟨fits, leads, rfl⟩ := (resolve_eq_ok clean).1 led
      refine ⟨fits, leads, ?_⟩
      split at made
      · next isFolder => exact .inl ⟨isFolder, (Except.ok.inj made).symm⟩
      · cases made
      · next absent => exact .inr ⟨absent, (Except.ok.inj made).symm⟩
  · rintro ⟨fits, leads, there⟩
    rw [(resolve_eq_ok clean).2 ⟨fits, leads, rfl⟩]
    dsimp only
    rcases there with ⟨isFolder, rfl⟩ | ⟨absent, rfl⟩
    · rw [isFolder]
    · rw [absent]

theorem folderOr_of_makeFolder {tree' : FileTree}
    (made : tree.makeFolder (ofParts rooted (ps ++ [p])) = .ok tree') :
    tree.FolderOr rooted (ps ++ [p]) := by
  obtain ⟨fits, -, there⟩ := (makeFolder_eq_ok clean).1 made
  exact ⟨fits, there.imp And.left And.left⟩

/-- A folder that is there or can be made is there afterwards, and nothing else changes. -/
theorem exists_makeFolder_eq_ok (leads : tree.Leads rooted ps)
    (can : tree.FolderOr rooted (ps ++ [p])) :
    ∃ next : FileTree, tree.makeFolder (ofParts rooted (ps ++ [p])) = .ok next ∧
      next.Leads rooted (ps ++ [p]) ∧
      ∀ place, place ≠ placeOf rooted (ps ++ [p]) → next.get? place = tree.get? place := by
  obtain ⟨fits, there⟩ := can
  -- The folders before stay, and the new one is the last on the way.
  have onward {next : FileTree}
      (isFolder : next.get? (placeOf rooted (ps ++ [p])) = some .folder)
      (kept : ∀ place, place ≠ placeOf rooted (ps ++ [p]) → next.get? place = tree.get? place) :
      next.Leads rooted (ps ++ [p]) := by
    intro front isFront
    rcases List.prefix_concat_iff.1 isFront with rfl | before
    · exact isFolder
    · rw [kept _ (placeOf_concat_ne p before)]
      exact leads front before
  rcases there with isFolder | absent
  · exact ⟨tree, (makeFolder_eq_ok clean).2 ⟨fits, leads, .inl ⟨isFolder, rfl⟩⟩,
      onward isFolder fun _ _ => rfl, fun _ _ => rfl⟩
  · have inner : isOuter (placeOf rooted (ps ++ [p])) = false :=
      @isOuter_eq_false tree _ (by rw [absent]; nofun)
    have kept (place : Place) (differ : place ≠ placeOf rooted (ps ++ [p])) :
        (tree.put (placeOf rooted (ps ++ [p])) .folder).get? place = tree.get? place :=
      get?_put_of_ne _ differ
    exact ⟨_, (makeFolder_eq_ok clean).2 ⟨fits, leads, .inr ⟨absent, rfl⟩⟩,
      onward (get?_put_self _ inner) kept, kept⟩

end Folder

end FileTree

end Stepwise
