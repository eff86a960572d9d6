import Stepwise.Proofs.Grammar.Derivation

/-!
# Printed terms read back

A term reads back from its printed form exactly if each of its names, of variables and of binders
alike, is an identifier.  If they are, the scanner splits the printed form at the boundaries where
it was put together, and the tokens derive the term as a single unit.  If the term was read back,
its names are among the identifiers of the source that it was read from, whatever that source is.
-/

namespace Stepwise

/-- A string that the scanner takes for a single identifier. -/
def IsIdentifier (name : String) : Prop :=
  name.toList ≠ [] ∧ (∀ c ∈ name.toList, isIdentChar c = true) ∧ name ≠ "let" ∧ name ≠ "in"

instance (name : String) : Decidable (IsIdentifier name) :=
  inferInstanceAs (Decidable (_ ∧ _ ∧ _ ∧ _))

/-- The names of the variables and binders of a term. -/
def Term.names : Term → List String
  | .var name => [name]
  | .abs name body => name :: body.names
  | .app left right => left.names ++ right.names

/-! ## Identifiers and words -/

theorem IsIdentifier.ofWord_toList {name : String} (identifier : IsIdentifier name) :
    Token.ofWord name.toList = .ident name := by
  obtain ⟨-, -, notLet, notIn⟩ := identifier
  have wordNotLet : name.toList ≠ ['l', 'e', 't'] := by
    intro spelt
    exact notLet (String.toList_inj.1 spelt)
  have wordNotIn : name.toList ≠ ['i', 'n'] := by
    intro spelt
    exact notIn (String.toList_inj.1 spelt)
  rw [Token.ofWord, if_neg wordNotLet, if_neg wordNotIn, String.ofList_toList]

theorem isIdentifier_of_ofWord {word : List Char} {name : String} (nonempty : word ≠ [])
    (ident : ∀ c ∈ word, isIdentChar c = true) (spelt : Token.ofWord word = .ident name) :
    IsIdentifier name := by
  unfold Token.ofWord at spelt
  split at spelt
  · cases spelt
  · next notLet =>
    split at spelt
    · cases spelt
    · next notIn =>
      cases spelt
      refine ⟨?_, ?_, ?_, ?_⟩
      · rwa [String.toList_ofList]
      · rwa [String.toList_ofList]
      · intro same
        exact notLet (by rw [← String.toList_ofList (l := word), same]; rfl)
      · intro same
        exact notIn (by rw [← String.toList_ofList (l := word), same]; rfl)

theorem Token.ofMark_ne_ident (c : Char) (name : String) : ofMark c ≠ ident name := by
  unfold ofMark
  split <;> nofun

/-- Every identifier among the tokens of a source is one. -/
theorem isIdentifier_of_mem_scan {cs : List Char} {name : String}
    (member : Token.ident name ∈ Token.scan cs) : IsIdentifier name := by
  obtain ⟨l, scanned, spelt⟩ := List.mem_map.1 member
  rcases Lexeme.spelling_of_mem_scanFrom scanned with ⟨nonempty, ident, word⟩ | ⟨c, -, -, mark⟩
  · exact isIdentifier_of_ofWord nonempty ident (word.symm.trans spelt)
  · exact (Token.ofMark_ne_ident c name (mark.symm.trans spelt)).elim

/-! ## The names of a derived term -/

/-- A name in the meaning of a `let` comes from one of the bindings or from the body. -/
theorem exists_mem_of_mem_names_letMeaning {name : String} {bound : List (String × Term)}
    {body : Term} (member : name ∈ (letMeaning bound body).names) :
    (∃ b ∈ bound, name ∈ b.1 :: b.2.names) ∨ name ∈ body.names := by
  induction bound with
  | nil => exact .inr member
  | cons b more ih =>
    rcases List.mem_append.1 member with inLeft | inValue
    · rcases List.mem_cons.1 inLeft with rfl | inRest
      · exact .inl ⟨b, by simp, by simp⟩
      · rcases ih inRest with ⟨d, later, inside⟩ | inBody
        · exact .inl ⟨d, by simp [later], inside⟩
        · exact .inr inBody
    · exact .inl ⟨b, by simp, by simp [inValue]⟩

mutual

/-- The names of a term are identifiers of the tokens that derive it. -/
theorem DerivesTerm.ident_mem {ts : List Token} {t : Term} {name : String}
    (derives : DerivesTerm ts t) (member : name ∈ t.names) : Token.ident name ∈ ts := by
  match derives with
  | .letIn derivesBound derivesBody =>
    rcases exists_mem_of_mem_names_letMeaning member with ⟨b, bound, inside⟩ | inside
    · have found := derivesBound.ident_mem bound inside
      simp [found]
    · have found := derivesBody.ident_mem inside
      simp [found]
  | .units derivesUnits => exact derivesUnits.ident_mem member

theorem DerivesBindings.ident_mem {ts : List Token} {bound : List (String × Term)} {name : String}
    {b : String × Term} (derives : DerivesBindings ts bound) (mem : b ∈ bound)
    (member : name ∈ b.1 :: b.2.names) : Token.ident name ∈ ts := by
  match derives with
  | .one derivesValue =>
    rw [List.mem_singleton] at mem
    subst mem
    rcases List.mem_cons.1 member with rfl | inside
    · simp
    · have found := derivesValue.ident_mem inside
      simp [found]
  | .more derivesValue derivesMore =>
    rcases List.mem_cons.1 mem with rfl | later
    · rcases List.mem_cons.1 member with rfl | inside
      · simp
      · have found := derivesValue.ident_mem inside
        simp [found]
    · have found := derivesMore.ident_mem later member
      simp [found]

theorem DerivesUnits.ident_mem {ts : List Token} {t : Term} {name : String}
    (derives : DerivesUnits ts t) (member : name ∈ t.names) : Token.ident name ∈ ts := by
  match derives with
  | .one derivesUnit => exact derivesUnit.ident_mem member
  | .juxtapose derivesFunction derivesArgument =>
    rcases List.mem_append.1 member with inside | inside
    · exact List.mem_append_left _ (derivesFunction.ident_mem inside)
    · exact List.mem_append_right _ (derivesArgument.ident_mem inside)

theorem DerivesUnit.ident_mem {ts : List Token} {t : Term} {name : String}
    (derives : DerivesUnit ts t) (member : name ∈ t.names) : Token.ident name ∈ ts := by
  match derives with
  | .ident other =>
    rw [List.mem_singleton.1 member]
    exact List.mem_singleton_self _
  | .paren derivesInner =>
    have found := derivesInner.ident_mem member
    simp [found]
  | .binder derivesBody =>
    rcases List.mem_cons.1 member with rfl | inside
    · simp
    · have found := derivesBody.ident_mem inside
      simp [found]

end

/-! ## The tokens of a printed term -/

/-- The tokens of the printed form. -/
def Term.printedTokens : Term → List Token
  | .var name => [.ident name]
  | .abs name body => .lambda :: .ident name :: .dot :: body.printedTokens
  | .app left right => .leftParen :: (left.printedTokens ++ right.printedTokens ++ [.rightParen])

/-- A printed term is a single unit. -/
theorem Term.derivesUnit_printedTokens (t : Term) : DerivesUnit t.printedTokens t := by
  induction t with
  | var name => exact .ident name
  | abs name body ih => exact .binder ih
  | app left right ihLeft ihRight => exact .paren (.units (.juxtapose (.one ihLeft) ihRight))

/-- The scanner splits a printed term where it was put together, if no identifier goes on after
it. -/
theorem Token.scan_charsBefore {t : Term} (identifiers : ∀ name ∈ t.names, IsIdentifier name)
    (rest : List Char) (stops : ∀ c ∈ rest.head?, isIdentChar c = false) :
    scan (t.charsBefore rest) = t.printedTokens ++ scan rest := by
  induction t generalizing rest with
  | var name =>
    have identifier := identifiers name (by simp [Term.names])
    rw [Term.charsBefore, scan_word identifier.1 identifier.2.1 stops, identifier.ofWord_toList]
    rfl
  | abs name body ih =>
    have identifier := identifiers name (by simp [Term.names])
    have inner := ih (fun x member => identifiers x (by simp [Term.names, member])) rest stops
    have dotStops := Lexeme.stops_cons (c := '.') (by decide) (body.charsBefore rest)
    rw [Term.charsBefore, scan_mark (by decide) (by decide),
      scan_word identifier.1 identifier.2.1 dotStops, identifier.ofWord_toList,
      scan_mark (by decide) (by decide), inner]
    rfl
  | app left right ihLeft ihRight =>
    have blankStops := Lexeme.stops_cons (c := ' ') (by decide) (right.charsBefore (')' :: rest))
    have parenStops := Lexeme.stops_cons (c := ')') (by decide) rest
    have innerLeft := ihLeft (fun x member => identifiers x (by simp [Term.names, member])) _
      blankStops
    have innerRight := ihRight (fun x member => identifiers x (by simp [Term.names, member])) _
      parenStops
    rw [Term.charsBefore, scan_mark (by decide) (by decide), innerLeft, scan_blank (by decide),
      innerRight, scan_mark (by decide) (by decide)]
    simp [Term.printedTokens, ofMark]

/-! ## Reading back -/

namespace Term

theorem isIdentifier_of_parseChars {source : List Char} {t : Term} {name : String}
    (read : parseChars source = .ok t) (member : name ∈ t.names) : IsIdentifier name :=
  isIdentifier_of_mem_scan ((parseChars_eq_ok_iff_derivesTerm.1 read).ident_mem member)

theorem parse_text {t : Term} (identifiers : ∀ name ∈ t.names, IsIdentifier name) :
    parse t.text = .ok t := by
  have scanned := Token.scan_charsBefore identifiers [] nofun
  rw [Token.scan_nil, List.append_nil] at scanned
  rw [parse, text, String.toList_ofList, parseChars_eq_ok_iff_derivesTerm, chars, scanned]
  exact .units (.one t.derivesUnit_printedTokens)

/-- A term reads back from its printed form exactly if every name in it is an identifier. -/
theorem parse_text_eq_ok_iff (t : Term) :
    parse t.text = .ok t ↔ ∀ name ∈ t.names, IsIdentifier name := by
  constructor
  · intro read name member
    exact isIdentifier_of_parseChars read member
  · intro identifiers
    exact parse_text identifiers

end Term

end Stepwise
