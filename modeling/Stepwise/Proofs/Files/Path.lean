import Stepwise.Files.Path

/-!
# Clean paths

The parts of a cleaned path are neither empty nor `.`, and every `..` stands before all other parts;
a path from the root has none (`Path.IsClean`).  Cleaning always ends with such parts
(`Path.isClean_cleanParts`), and leaves a path that has them as it is (`Path.cleanParts_ofParts`).

Joining a folder and a single segment therefore adds the segment to the parts of the folder and
changes nothing else (`Path.join_segment`).
-/

namespace Stepwise

namespace Path

/-- A part that names something in a folder. -/
structure IsSegment (part : Text) : Prop where
  nonempty : part ≠ []
  noSlash : slash ∉ part
  notHere : part ≠ here
  notUp : part ≠ up

instance (part : Text) : Decidable (IsSegment part) :=
  decidable_of_iff (part ≠ [] ∧ slash ∉ part ∧ part ≠ here ∧ part ≠ up)
    ⟨fun h => ⟨h.1, h.2.1, h.2.2.1, h.2.2.2⟩, fun h => ⟨h.1, h.2, h.3, h.4⟩⟩

/-- The parts of a cleaned path. -/
structure IsClean (rooted : Bool) (ps : List Text) : Prop where
  parts : ∀ p ∈ ps, p ≠ [] ∧ p ≠ here ∧ slash ∉ p
  /-- Only `..` stands before `..`. -/
  ups : ps.Pairwise fun p q => q = up → p = up
  noUp : rooted = true → up ∉ ps

/-- No part between slashes has a slash. -/
theorem slash_not_mem_of_mem_parts {path p : Text} (member : p ∈ parts path) : slash ∉ p := by
  unfold parts at member
  induction path generalizing p with
  | nil =>
    rw [List.splitOn_nil, List.mem_singleton] at member
    rw [member]
    nofun
  | cons g path ih =>
    rw [List.splitOn_cons_eq_if_modifyHead] at member
    split at member
    · rcases List.mem_cons.1 member with rfl | later
      · nofun
      · exact ih later
    · next other =>
      cases front : path.splitOn slash with
      | nil => exact (List.splitOn_ne_nil slash path front).elim
      | cons q qs =>
        rw [front] at member ih
        rcases List.mem_cons.1 member with rfl | later
        · rw [List.mem_cons, not_or]
          exact ⟨fun same => other (beq_iff_eq.2 same.symm), ih List.mem_cons_self⟩
        · exact ih (List.mem_cons_of_mem q later)

/-! ## Clean parts -/

namespace IsClean

variable {rooted : Bool} {ps qs : List Text} {p : Text}

theorem nil (rooted : Bool) : IsClean rooted [] := ⟨nofun, .nil, fun _ => nofun⟩

theorem of_append (clean : IsClean rooted (ps ++ qs)) : IsClean rooted ps where
  parts p member := clean.parts p (List.mem_append_left qs member)
  ups := (List.pairwise_append.1 clean.ups).1
  noUp isRooted member := clean.noUp isRooted (List.mem_append_left qs member)

/-- Whatever stands before `..` is `..`. -/
theorem eq_up_of_mem (clean : IsClean rooted (ps ++ up :: qs)) (member : p ∈ ps) : p = up :=
  (List.pairwise_append.1 clean.ups).2.2 p member up List.mem_cons_self rfl

theorem rooted_eq_false (clean : IsClean rooted (ps ++ up :: qs)) : rooted = false := by
  cases rooted with
  | false => rfl
  | true => exact (clean.noUp rfl (List.mem_append_right ps List.mem_cons_self)).elim

theorem append_segment (clean : IsClean rooted ps) (segment : IsSegment p) :
    IsClean rooted (ps ++ [p]) where
  parts q member := by
    rcases List.mem_append.1 member with inside | last
    · exact clean.parts q inside
    · rw [List.mem_singleton.1 last]
      exact ⟨segment.nonempty, segment.notHere, segment.noSlash⟩
  ups := by
    refine List.pairwise_append.2 ⟨clean.ups, List.pairwise_singleton _ p, ?_⟩
    intro q _ r last isUp
    rw [List.mem_singleton.1 last] at isUp
    exact (segment.notUp isUp).elim
  noUp isRooted member := by
    rcases List.mem_append.1 member with inside | last
    · exact clean.noUp isRooted inside
    · exact segment.notUp (List.mem_singleton.1 last).symm

theorem append_up (clean : IsClean false ps) (onlyUps : ∀ q ∈ ps, q = up) :
    IsClean false (ps ++ [up]) where
  parts q member := by
    rcases List.mem_append.1 member with inside | last
    · exact clean.parts q inside
    · rw [List.mem_singleton.1 last]
      decide
  ups := by
    refine List.pairwise_append.2 ⟨clean.ups, List.pairwise_singleton _ up, ?_⟩
    intro q inside _ _ _
    exact onlyUps q inside
  noUp := nofun

end IsClean

/-! ## Cleaning -/

variable {rooted : Bool}

theorem addPart_of_isSegment {p : Text} (before : List Text) (segment : IsSegment p) :
    addPart rooted before p = p :: before := by
  unfold addPart
  rw [if_neg (not_or.2 ⟨segment.nonempty, segment.notHere⟩), if_neg segment.notUp]

/-- Adding a part keeps the parts clean.  They are kept last first, so the last one is at hand when
`..` takes it away. -/
theorem isClean_addPart {before : List Text} {p : Text} (clean : IsClean rooted before.reverse)
    (noSlash : slash ∉ p) : IsClean rooted (addPart rooted before p).reverse := by
  unfold addPart
  split
  · exact clean
  · next real =>
    obtain ⟨nonempty, notHere⟩ := not_or.1 real
    split
    · cases before with
      | nil =>
        cases rooted with
        | true => exact .nil true
        | false => exact IsClean.append_up (.nil false) nofun
      | cons last earlier =>
        rw [List.reverse_cons] at clean
        dsimp only
        split
        · next isUp =>
          subst isUp
          cases clean.rooted_eq_false
          rw [List.reverse_cons, List.reverse_cons]
          refine clean.append_up ?_
          intro q member
          rcases List.mem_append.1 member with inside | last
          · exact clean.eq_up_of_mem inside
          · exact List.mem_singleton.1 last
        · exact clean.of_append
    · next notUp =>
      rw [List.reverse_cons]
      exact clean.append_segment ⟨nonempty, noSlash, notHere, notUp⟩

theorem isClean_foldl_addPart {before ps : List Text} (clean : IsClean rooted before.reverse)
    (noSlash : ∀ p ∈ ps, slash ∉ p) :
    IsClean rooted (ps.foldl (addPart rooted) before).reverse := by
  induction ps generalizing before with
  | nil => exact clean
  | cons p ps ih =>
    exact ih (isClean_addPart clean (noSlash p List.mem_cons_self))
      fun q member => noSlash q (List.mem_cons_of_mem p member)

/-- Cleaning ends with clean parts. -/
theorem isClean_cleanParts (path : Text) : IsClean (isRooted path) (cleanParts path) :=
  isClean_foldl_addPart (.nil _) fun _ => slash_not_mem_of_mem_parts

/-- Clean parts are all kept. -/
theorem foldl_addPart_of_isClean {before ps : List Text}
    (clean : IsClean rooted (before.reverse ++ ps)) :
    ps.foldl (addPart rooted) before = ps.reverse ++ before := by
  induction ps generalizing before with
  | nil => rfl
  | cons p ps ih =>
    have added : addPart rooted before p = p :: before := by
      obtain ⟨nonempty, notHere, noSlash⟩ :=
        clean.parts p (List.mem_append_right _ List.mem_cons_self)
      by_cases isUp : p = up
      · subst isUp
        have notRooted := clean.rooted_eq_false
        unfold addPart
        rw [if_neg (not_or.2 ⟨nonempty, notHere⟩), if_pos rfl]
        cases before with
        | nil => rw [notRooted]; rfl
        | cons last earlier =>
          have lastUp : last = up := clean.eq_up_of_mem (by simp)
          exact if_pos lastUp
      · exact addPart_of_isSegment before ⟨nonempty, noSlash, notHere, isUp⟩
    rw [List.foldl_cons, added, ih (by simpa using clean), List.reverse_cons, List.append_assoc]
    rfl

/-! ## Paths with clean parts -/

section OfParts

variable {ps : List Text} (clean : IsClean rooted ps) (nonempty : ps ≠ [])

include clean nonempty

theorem intercalate_head? : ∃ g, ([slash].intercalate ps).head? = some g ∧ g ≠ slash := by
  cases ps with
  | nil => exact (nonempty rfl).elim
  | cons p ps =>
    obtain ⟨partNonempty, -, noSlash⟩ := clean.parts p List.mem_cons_self
    cases p with
    | nil => exact (partNonempty rfl).elim
    | cons g p =>
      refine ⟨g, ?_, ?_⟩
      · cases ps with
        | nil => rw [List.intercalate_singleton]; rfl
        | cons q qs => rw [List.intercalate_cons_cons]; rfl
      · rintro rfl
        exact noSlash List.mem_cons_self

theorem ofParts_ne_nil : ofParts rooted ps ≠ [] := by
  obtain ⟨g, first, -⟩ := intercalate_head? clean nonempty
  intro empty
  rw [(List.append_eq_nil_iff.1 empty).2] at first
  cases first

theorem isRooted_ofParts : isRooted (ofParts rooted ps) = rooted := by
  cases rooted with
  | true => rfl
  | false =>
    obtain ⟨g, first, other⟩ := intercalate_head? clean nonempty
    rw [isRooted, ofParts, if_neg Bool.false_ne_true, List.nil_append, first]
    exact decide_eq_false fun same => other (Option.some.inj same)

theorem parts_ofParts : parts (ofParts rooted ps) = (if rooted then [[]] else []) ++ ps := by
  have inner : ([slash].intercalate ps).splitOn slash = ps :=
    List.splitOn_intercalate slash (fun p member => (clean.parts p member).2.2) nonempty
  cases rooted with
  | false => exact inner
  | true =>
    rw [parts, ofParts, if_pos rfl, List.singleton_append, List.splitOn_cons_eq_if_modifyHead,
      if_pos BEq.rfl, inner]
    rfl

/-- Clean parts are those of the path that they make. -/
theorem cleanParts_ofParts : cleanParts (ofParts rooted ps) = ps := by
  have kept := @foldl_addPart_of_isClean rooted [] ps clean
  rw [cleanParts, isRooted_ofParts clean nonempty, parts_ofParts clean nonempty]
  cases rooted with
  | false => rw [if_neg Bool.false_ne_true, List.nil_append, kept]; simp
  | true =>
    have skipped : addPart true [] [] = [] := rfl
    rw [if_pos rfl, List.singleton_append, List.foldl_cons, skipped, kept]
    simp

end OfParts

/-! ## Joining -/

theorem cleanParts_append_segment {base name : Text} (nonempty : base ≠ [])
    (segment : IsSegment name) :
    isRooted (base ++ slash :: name) = isRooted base ∧
      cleanParts (base ++ slash :: name) = cleanParts base ++ [name] := by
  have rootedSame : isRooted (base ++ slash :: name) = isRooted base := by
    cases base with
    | nil => exact (nonempty rfl).elim
    | cons g base => rfl
  refine ⟨rootedSame, ?_⟩
  rw [cleanParts, rootedSame, parts, List.splitOn_append_cons_self,
    List.splitOn_eq_singleton segment.noSlash, List.foldl_append, List.foldl_cons, List.foldl_nil,
    addPart_of_isSegment _ segment, List.reverse_cons]
  rfl

/-- Joining a path and a segment adds the segment to the parts of the path. -/
theorem join_segment (base : Text) {name : Text} (segment : IsSegment name) :
    join base name = ofParts (isRooted base) (cleanParts base ++ [name]) := by
  have clean_eq : ∀ path, cleanParts path ≠ [] →
      clean path = ofParts (isRooted path) (cleanParts path) := by
    intro path parts
    exact if_neg fun both => parts both.1
  by_cases empty : base = []
  · subst empty
    have single : cleanParts name = [name] := by
      rw [cleanParts, parts, List.splitOn_eq_singleton segment.noSlash, List.foldl_cons,
        List.foldl_nil, addPart_of_isSegment _ segment]
      rfl
    have relative : isRooted name = false := by
      refine decide_eq_false fun first => ?_
      exact segment.noSlash (List.mem_of_mem_head? first)
    rw [join, if_pos rfl, if_neg segment.nonempty, clean_eq name (by rw [single]; nofun), single,
      relative]
    rfl
  · obtain ⟨rootedSame, parts⟩ := cleanParts_append_segment empty segment
    rw [join, if_neg empty, if_neg segment.nonempty, clean_eq _ (by rw [parts]; simp), parts,
      rootedSame]

end Path

end Stepwise
