import Stepwise.Proofs.Grammar.Place
import Stepwise.Proofs.Grammar.Printing
import Stepwise.Proofs.Term.FreeNames

/-!
# Several bindings in one `let`

The bindings of a `let` and its body can be any sources that read as terms, laid out in any way and
possibly with a `let` of their own.  Put together, they are read as before: a value ends where its
semicolon stands, because the tokens of a source are the same inside a longer one
(`Binding.scan_tail`), and so are the derivations of its term.

Each binding is in scope in the values after it and in the body.  A `let` with several bindings
therefore stands for the same term as one `let` inside the other, and a name of a value is bound
only by the names before it (`Term.let_binds_in_sequence`).
-/

namespace Stepwise

/-- A binding as it is written in a `let`: an identifier, and a source that reads as its value. -/
structure Binding where
  name : String
  source : String
  value : Term
  identifier : IsIdentifier name
  reads : Term.parse source = .ok value

namespace Binding

/-- The bindings as they are written, with the word `in` and the source of the body after them. -/
def tail (bs : List Binding) (body : String) : String :=
  bs.foldr (fun b rest => b.name ++ (" = " ++ (b.source ++ ("; " ++ rest)))) ("in " ++ body)

/-- The source `let x₁ = M₁; … xₙ = Mₙ; in B` of one `let` with all the bindings. -/
def together (bs : List Binding) (body : String) : String := "let " ++ tail bs body

/-- The source `let x₁ = M₁; in let x₂ = M₂; in … B` of one `let` inside the other, each with one
binding. -/
def nested (bs : List Binding) (body : String) : String :=
  bs.foldr (fun b rest => together [b] rest) body

/-- What the bindings bind. -/
def bound (bs : List Binding) : List (String × Term) := bs.map fun b => (b.name, b.value)

/-! ## Tokens -/

/-- The tokens of a binding. -/
def tokens (b : Binding) : List Token :=
  .ident b.name :: .equals :: (Token.scan b.source.toList ++ [.semicolon])

/-- A binding is cut into its own tokens, whatever follows it. -/
theorem scan_binding (b : Binding) (rest : List Char) :
    Token.scan (b.name.toList ++ ' ' :: '=' :: ' ' :: (b.source.toList ++ ';' :: ' ' :: rest)) =
      b.tokens ++ Token.scan rest := by
  obtain ⟨nonempty, ident, -, -⟩ := b.identifier
  have valueStops := Lexeme.stops_cons (c := ';') (by decide) (' ' :: rest)
  rw [Token.scan_word_blank nonempty ident (by decide), b.identifier.ofWord_toList,
    Token.scan_mark (by decide) (by decide), Token.scan_blank (by decide),
    Token.scan_append valueStops, Token.scan_mark (by decide) (by decide),
    Token.scan_blank (by decide)]
  simp [tokens, Token.ofMark]

/-- The bindings of a `let` are cut into their tokens one after the other. -/
theorem scan_tail (bs : List Binding) (body : String) :
    Token.scan (tail bs body).toList =
      bs.flatMap tokens ++ .inWord :: Token.scan body.toList := by
  induction bs with
  | nil =>
    change Token.scan ("in " ++ body).toList = _
    rw [String.toList_append]
    exact @Token.scan_word_blank ['i', 'n'] ' ' nofun (List.all_eq_true.1 rfl) (by decide) _
  | cons b bs ih =>
    change Token.scan (b.name ++ (" = " ++ (b.source ++ ("; " ++ tail bs body)))).toList = _
    rw [String.toList_append, String.toList_append, String.toList_append, String.toList_append,
      List.flatMap_cons, List.append_assoc, ← ih]
    exact scan_binding b (tail bs body).toList

theorem scan_together (bs : List Binding) (body : String) :
    Token.scan (together bs body).toList =
      .letWord :: (bs.flatMap tokens ++ .inWord :: Token.scan body.toList) := by
  rw [together, String.toList_append, ← scan_tail]
  exact @Token.scan_word_blank ['l', 'e', 't'] ' ' nofun (List.all_eq_true.1 rfl) (by decide) _

/-! ## Reading -/

/-- The tokens of bindings derive what they bind. -/
theorem derivesBindings {bs : List Binding} (nonempty : bs ≠ []) :
    DerivesBindings (bs.flatMap tokens) (bound bs) := by
  induction bs with
  | nil => exact (nonempty rfl).elim
  | cons b bs ih =>
    have value : DerivesTerm (Token.scan b.source.toList) b.value :=
      Term.parseChars_eq_ok_iff_derivesTerm.1 b.reads
    cases bs with
    | nil =>
      rw [List.flatMap_singleton]
      exact .one value
    | cons next bs =>
      have more := @DerivesBindings.more b.name _ _ _ _ value (ih nofun)
      rw [List.flatMap_cons, tokens]
      simpa [bound] using more

variable {bs : List Binding} {body : String} {t : Term}

/-- A `let` reads as what it means. -/
theorem parse_together (nonempty : bs ≠ []) (reads : Term.parse body = .ok t) :
    Term.parse (together bs body) = .ok (letMeaning (bound bs) t) := by
  have derives : DerivesTerm (Token.scan body.toList) t :=
    Term.parseChars_eq_ok_iff_derivesTerm.1 reads
  refine Term.parseChars_eq_ok_iff_derivesTerm.2 ?_
  rw [scan_together]
  exact .letIn (derivesBindings nonempty) derives

/-- One `let` inside the other reads as the one with all the bindings. -/
theorem parse_nested (bs : List Binding) (reads : Term.parse body = .ok t) :
    Term.parse (nested bs body) = .ok (letMeaning (bound bs) t) := by
  induction bs with
  | nil => exact reads
  | cons b bs ih => exact @parse_together [b] _ _ nofun ih

/-! ## Scope -/

/-- A name is free in a `let` if it is free in the body and not bound, or free in a value and not
bound before it. -/
theorem mem_freeNames_letMeaning {y : String} :
    y ∈ (letMeaning (bound bs) t).freeNames ↔
      (y ∈ t.freeNames ∧ y ∉ bs.map Binding.name) ∨
        ∃ i b, bs[i]? = some b ∧ y ∈ b.value.freeNames ∧ y ∉ (bs.take i).map Binding.name := by
  induction bs with
  | nil => simp [bound, letMeaning]
  | cons b bs ih =>
    -- The first binding is in scope in all that follows it, but not in its own value.
    change y ∈ (Term.app (.abs b.name (letMeaning (bound bs) t)) b.value).freeNames ↔ _
    rw [Term.mem_freeNames_redex, ih]
    constructor
    · intro free
      rcases free with ⟨⟨inBody, unbound⟩ | ⟨i, m, found, inValue, unbound⟩, other⟩ | inValue
      · exact .inl ⟨inBody, List.not_mem_cons_of_ne_of_not_mem other unbound⟩
      · exact .inr ⟨i + 1, m, found, inValue, List.not_mem_cons_of_ne_of_not_mem other unbound⟩
      · exact .inr ⟨0, b, rfl, inValue, List.not_mem_nil⟩
    · intro free
      rcases free with ⟨inBody, unbound⟩ | ⟨_ | i, m, found, inValue, unbound⟩
      · obtain ⟨other, unbound⟩ := not_or.1 (mt List.mem_cons.2 unbound)
        exact .inl ⟨.inl ⟨inBody, unbound⟩, other⟩
      · cases found
        exact .inr inValue
      · obtain ⟨other, unbound⟩ := not_or.1 (mt List.mem_cons.2 unbound)
        exact .inl ⟨.inr ⟨i, m, found, inValue, unbound⟩, other⟩

end Binding

namespace Term

open Binding

/-- A `let` binds in sequence.  Let bindings be given, each an identifier with a source that reads
as a term, and a source that reads as the body `b`.  The `let` with all the bindings is read as
`(λx₁.(… ((λxₙ.b) mₙ) …)) m₁`, and so is one `let` inside the other with one binding each.  A name
is free in that term if and only if it is free in the body and not bound, or free in the value of a
binding and not bound by one before it. -/
theorem let_binds_in_sequence {bs : List Binding} (nonempty : bs ≠ []) {body : String} {b : Term}
    (reads : parse body = .ok b) :
    parse (together bs body) = .ok (letMeaning (bound bs) b) ∧
      parse (nested bs body) = .ok (letMeaning (bound bs) b) ∧
      ∀ y, isFree y (letMeaning (bound bs) b) = true ↔
        (isFree y b = true ∧ y ∉ bs.map Binding.name) ∨
          ∃ i m, bs[i]? = some m ∧ isFree y m.value = true ∧
            y ∉ (bs.take i).map Binding.name := by
  refine ⟨parse_together nonempty reads, parse_nested bs reads, ?_⟩
  intro y
  simp only [isFree_eq_true]
  exact mem_freeNames_letMeaning

/-- Both bindings are called `x`, and the value of the first is a `let` itself.  The first `x` is
bound in the value of the second binding and not in its own, where it is free. -/
theorem let_binds_in_sequence_shadowing :
    let m : Term := .app (.abs "z" (.app (.var "z") (.var "x"))) (.abs "y" (.var "y"))
    let t : Term := .app (.abs "x" (.app (.abs "x" (.app (.var "x") (.var "z")))
      (.app (.var "x") (.var "y")))) m
    parse "let x = let z=\\y.y; in z x; x =  x\n y ; in \tx z" = .ok t ∧
      parse "let x = let z=\\y.y; in z x; in let x =  x\n y ; in \tx z" = .ok t ∧
      isFree "x" t = true := by
  intro m t
  have identifier : IsIdentifier "x" :=
    ⟨by decide, List.all_eq_true.1 (by decide), by decide, by decide⟩
  let first : Binding := ⟨"x", "let z=\\y.y; in z x", m, identifier, by decide +kernel⟩
  let second : Binding :=
    ⟨"x", " x\n y ", .app (.var "x") (.var "y"), identifier, by decide +kernel⟩
  have body : parse "\tx z" = .ok (.app (.var "x") (.var "z")) := by decide +kernel
  obtain ⟨whole, inside, free⟩ := @let_binds_in_sequence [first, second] nofun _ _ body
  have inFirst : isFree "x" m = true := by decide
  exact ⟨whole, inside, (free "x").2 (.inr ⟨0, first, rfl, inFirst, nofun⟩)⟩

end Term

end Stepwise
