import Stepwise.Proofs.Grammar.Place
import Stepwise.Proofs.Grammar.Printing
import Stepwise.Proofs.Term.Contraction
import Stepwise.Proofs.Term.Numbering

/-!
# Terms that always read back

A printed term reads back if its names are identifiers.  Three kinds of term need no check: a
canonical form, whose names are numbers and `_` whatever the names of the term were
(`Term.isIdentifier_of_mem_names_canonical`), a term that was read from a source, however that
source was laid out (`Term.isIdentifier_of_parseChars`), and what a step makes of such a term, since
a step brings no new name in (`Strategy.mem_names_of_step`).

Blanks around a source make no difference to what it reads as (`Token.scan_trimBlanks`), so a
printed form may be kept in a file and trimmed before it is read.
-/

namespace Stepwise

/-! ## Blanks around a source -/

namespace Lexeme

/-- A blank after a source is no lexeme. -/
theorem scanFrom_append_blank {b : Char} (blank : isBlank b = true) (pos : Nat) (cs : List Char) :
    scanFrom pos (cs ++ [b]) = scanFrom pos cs := by
  have stops := stops_cons (isIdentChar_eq_false_of_isBlank blank) []
  rw [scanFrom_append stops, scanFrom_blank blank, scanFrom_nil, List.append_nil]

theorem scanFrom_dropWhile_isBlank (pos : Nat) (cs : List Char) :
    scanFrom (pos + (cs.takeWhile isBlank).length) (cs.dropWhile isBlank) = scanFrom pos cs := by
  induction cs generalizing pos with
  | nil => rfl
  | cons c cs ih =>
    cases blank : isBlank c with
    | true =>
      rw [List.takeWhile_cons_of_pos blank, List.dropWhile_cons_of_pos blank, List.length_cons,
        Nat.add_comm _ 1, ← Nat.add_assoc, ih, scanFrom_blank blank]
    | false =>
      have stops : ¬ isBlank c = true := by simp [blank]
      rw [List.takeWhile_cons_of_neg stops, List.dropWhile_cons_of_neg stops, List.length_nil,
        Nat.add_zero]

/-- The lexemes of a source stay when blanks are trimmed from its end, which is its start read
backwards. -/
theorem scanFrom_reverse_dropWhile_isBlank (pos : Nat) (cs : List Char) :
    scanFrom pos (cs.dropWhile isBlank).reverse = scanFrom pos cs.reverse := by
  induction cs with
  | nil => rfl
  | cons c cs ih =>
    cases blank : isBlank c with
    | true =>
      rw [List.dropWhile_cons_of_pos blank, ih, List.reverse_cons, scanFrom_append_blank blank]
    | false => rw [List.dropWhile_cons_of_neg (by simp [blank])]

/-- Blanks around a source are no lexemes, and those before it move the others. -/
theorem scan_eq_map_shift_trimBlanks (cs : List Char) :
    scan cs = (scan (trimBlanks cs)).map (shift (cs.takeWhile isBlank).length) := by
  have moved := scanFrom_dropWhile_isBlank 0 cs
  have trimmed := scanFrom_reverse_dropWhile_isBlank 0 (cs.dropWhile isBlank).reverse
  rw [List.reverse_reverse] at trimmed
  rw [scanFrom_add, ← trimmed] at moved
  exact moved.symm

end Lexeme

namespace Token

/-- Blanks around a source are no tokens. -/
theorem scan_trimBlanks (cs : List Char) : scan (trimBlanks cs) = scan cs := by
  rw [scan, scan, Lexeme.scan_eq_map_shift_trimBlanks cs, List.map_map]
  rfl

end Token

namespace Term

/-- What a source reads as depends on its tokens only. -/
theorem parseChars_eq_ok_congr {cs ds : List Char} (same : Token.scan cs = Token.scan ds)
    {t : Term} : parseChars cs = .ok t ↔ parseChars ds = .ok t := by
  rw [parseChars_eq_ok_iff_derivesTerm, parseChars_eq_ok_iff_derivesTerm, same]

/-! ## Names of canonical forms and of terms that were read -/

variable {t : Term} {name : String}

/-- A variable of a renamed term has a new name, and a binder has one too or is `_`. -/
theorem mem_names_numbered {number : String → String} {before : List String}
    (member : name ∈ (t.numbered number before).names) :
    name = unusedName ∨ ∃ x, name = number x := by
  induction t generalizing before with
  | var x => exact .inr ⟨x, List.mem_singleton.1 member⟩
  | abs x body ih =>
    rcases List.mem_cons.1 member with rfl | inBody
    · split
      · exact .inr ⟨x, rfl⟩
      · exact .inl rfl
    · exact ih inBody
  | app left right ihLeft ihRight =>
    rcases List.mem_append.1 member with inLeft | inRight
    · exact ihLeft inLeft
    · exact ihRight inRight

end Term

theorem isIdentChar_of_isDigit {c : Char} (digit : c.isDigit = true) : isIdentChar c = true := by
  have within : 0x30 ≤ c.toNat ∧ c.toNat ≤ 0x39 := by
    simpa [Char.isDigit, UInt32.le_iff_toNat_le] using digit
  have decimal : isDecimalDigit c = true := by
    simp [isDecimalDigit, decimalDigitRanges, inRanges, within]
  have notLambda : c ≠ 'λ' := by
    rintro rfl
    exact absurd within.2 (by decide)
  simp [isIdentChar, decimal, notLambda]

/-- A number is an identifier. -/
theorem isIdentifier_indexName (n : Nat) : IsIdentifier (indexName n) := by
  have digit : ∀ c ∈ (indexName n).toList, c.isDigit = true := by
    intro c member
    rw [indexName, String.toList_ofList] at member
    exact Nat.isDigit_of_mem_toDigits (by decide) (by decide) member
  refine ⟨?_, ?_, ?_, ?_⟩
  · rw [indexName, String.toList_ofList]
    exact Nat.toDigits_ne_nil
  · intro c member
    exact isIdentChar_of_isDigit (digit c member)
  · intro same
    exact absurd (digit 'l' (by rw [same]; decide)) (by decide)
  · intro same
    exact absurd (digit 'i' (by rw [same]; decide)) (by decide)

theorem isIdentifier_unusedName : IsIdentifier unusedName := by
  have chars : unusedName.toList = ['_'] := by decide
  refine ⟨?_, ?_, by decide, by decide⟩
  · rw [chars]
    nofun
  · rw [chars]
    exact List.forall_mem_singleton.2 (by decide)

namespace Term

variable {t : Term} {name : String}

/-- The names of a canonical form are identifiers, whatever the names of the term are. -/
theorem isIdentifier_of_mem_names_canonical (member : name ∈ t.canonical.names) :
    IsIdentifier name := by
  rw [canonical_eq_numbered] at member
  rcases mem_names_numbered member with rfl | ⟨x, rfl⟩
  · exact isIdentifier_unusedName
  · exact isIdentifier_indexName _

theorem mem_names_of_mem_freeNames {t : Term} {y : String} (free : y ∈ t.freeNames) :
    y ∈ t.names := by
  induction t with
  | var x => exact free
  | abs x body ih => exact List.mem_cons_of_mem x (ih (List.mem_filter.1 free).1)
  | app left right ihLeft ihRight =>
    rcases List.mem_append.1 free with inLeft | inRight
    · exact List.mem_append_left _ (ihLeft inLeft)
    · exact List.mem_append_right _ (ihRight inRight)

end Term

/-! ## A step brings no name in -/

theorem Term.mem_names_of_subst {t replacement : Term} {x name : String}
    (member : name ∈ (t.subst x replacement).names) :
    name ∈ t.names ∨ name ∈ replacement.names := by
  induction t with
  | var y =>
    by_cases same : y = x
    · rw [subst, if_pos same] at member
      exact .inr member
    · rw [subst, if_neg same] at member
      exact .inl member
  | abs y body ih =>
    by_cases blocked : y = x ∨ y ∈ replacement.freeNames
    · rw [subst_abs_of_blocked blocked] at member
      exact .inl member
    · rw [subst_abs_of_not_blocked blocked] at member
      rcases List.mem_cons.1 member with rfl | inBody
      · exact .inl List.mem_cons_self
      · exact (ih inBody).imp_left (List.mem_cons_of_mem y)
  | app left right ihLeft ihRight =>
    rcases List.mem_append.1 member with inLeft | inRight
    · exact (ihLeft inLeft).imp_left (List.mem_append_left _)
    · exact (ihRight inRight).imp_left (List.mem_append_right _)

namespace Strategy

variable {strategy : Strategy} {t : Term} {name : String}

theorem Contracts.mem_names {zs : List String} {x : String} {b a : Term}
    (contracts : strategy.Contracts t zs x b a)
    (member : name ∈ (zs.foldr .abs (b.subst x a)).names) : name ∈ t.names := by
  induction contracts with
  | @root x b a =>
    refine List.mem_append.2 ?_
    exact (Term.mem_names_of_subst member).imp_left (List.mem_cons_of_mem x)
  | @under t zs z x b a normal contracts ih =>
    rcases List.mem_cons.1 member with rfl | inBody
    · exact List.mem_cons_self
    · exact List.mem_cons_of_mem z (ih inBody)

/-- The names of what a step gives are names of what it was made on. -/
theorem mem_names_of_step {result : Term} (stepped : strategy.step t = .ok result)
    (member : name ∈ result.names) : name ∈ t.names := by
  rcases contracts_or_eq_of_step stepped with ⟨zs, x, b, a, contracts⟩ | rfl
  · rw [contracts.step_eq] at stepped
    cases stepped
    exact contracts.mem_names member
  · exact member

end Strategy

namespace Term

variable {t : Term}

/-! ## Reading back -/

theorem parse_text_of_parseChars {source : List Char} (read : parseChars source = .ok t) :
    parse t.text = .ok t :=
  parse_text fun _ member => isIdentifier_of_parseChars read member

theorem parse_text_of_step {strategy : Strategy} {source : List Char} {u : Term}
    (read : parseChars source = .ok t) (steps : strategy.step t = .ok u) :
    parse u.text = .ok u :=
  parse_text fun _ member =>
    isIdentifier_of_parseChars read (Strategy.mem_names_of_step steps member)

/-- A canonical form reads back from its printed form, whatever the names of the term are.  A term
that was read from a source, which need not be well-formed text, reads back too, so that what is
printed after reading stays as it is when it is read and printed again. -/
theorem printed_forms_read_back :
    (∀ t : Term, parse t.canonical.text = .ok t.canonical) ∧
      ∀ (source : Text) (t : Term), parseChars source.chars = .ok t →
        parse t.text = .ok t ∧ (parse t.text).map text = .ok t.text := by
  refine ⟨?_, ?_⟩
  · intro t
    exact parse_text fun _ member => isIdentifier_of_mem_names_canonical member
  · intro source t read
    have again := parse_text_of_parseChars read
    refine ⟨again, ?_⟩
    rw [again]
    rfl

/-- The names `let`, `)` and the empty one are no obstacle to the canonical form, and a source with
a `let`, a backslash and blanks prints as `(λx.(x y) λz.z)`, which is read as it was. -/
theorem printed_forms_read_back_let :
    let awkward : Term := .abs "let" (.app (.var ")") (.abs "" (.var "let")))
    let t : Term := .app (.abs "x" (.app (.var "x") (.var "y"))) (.abs "z" (.var "z"))
    parse awkward.canonical.text = .ok (.abs "1" (.app (.var "0") (.abs "_" (.var "1")))) ∧
      parse "  let x =\t\\z. z;\n in x y " = .ok t ∧ parse t.text = .ok t := by
  intro awkward t
  have read : parse "  let x =\t\\z. z;\n in x y " = .ok t := by decide +kernel
  refine ⟨printed_forms_read_back.1 awkward, read, ?_⟩
  exact (printed_forms_read_back.2 (Text.ofString "  let x =\t\\z. z;\n in x y ") t
    (by decide +kernel)).1

end Term

end Stepwise
