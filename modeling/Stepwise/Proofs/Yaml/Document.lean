import Stepwise.Proofs.Grammar.Printing
import Stepwise.Proofs.Text.Literal
import Stepwise.Term.Strategy
import Stepwise.Yaml.Document
import Stepwise.Yaml.TokenStream

/-!
# Written scalars read back

The strings in a document are names and printed terms, which fit on one line and hold few kinds of
characters (`IsLine`).  Such a string is written as it is, or between quotes with the characters
beyond U+FFFF escaped, and the readers of scalars give the string back in each of these forms
(`scalar_readsAs`).  A string that stands as it is would be taken for nothing but a string.  So all
strings are read back from the places where they stand in a document (`Document.string_readsAs`,
`Document.item_readsAs`).

Both readers keep the white space just passed apart from the characters before it.  On a single line
the two together are what has been read, and that is what every step adds to.
-/

namespace Stepwise

namespace Yaml

/-! ## Places on one line -/

theorem Place.column_next {c : Char} (noBreak : isBreak c = false) (p : Place) :
    (p.next c).column = p.column + 1 := by
  rw [next, noBreak]
  rfl

theorem Place.column_foldl_next {cs : List Char} (noBreak : ∀ c ∈ cs, isBreak c = false)
    (p : Place) : (cs.foldl next p).column = p.column + cs.length := by
  induction cs generalizing p with
  | nil => rfl
  | cons c cs ih =>
    obtain ⟨first, later⟩ := List.forall_mem_cons.1 noBreak
    rw [List.foldl_cons, ih later, column_next first, List.length_cons]
    omega

theorem spotsFrom_append (p : Place) (cs ds : List Char) :
    spotsFrom p (cs ++ ds) = spotsFrom p cs ++ spotsFrom (cs.foldl Place.next p) ds := by
  induction cs generalizing p with
  | nil => rfl
  | cons c cs ih => exact congrArg (⟨c, p⟩ :: ·) (ih (p.next c))

theorem map_char_spotsFrom (p : Place) (cs : List Char) :
    (spotsFrom p cs).map Spot.char = cs := by
  induction cs generalizing p with
  | nil => rfl
  | cons c cs ih => exact congrArg (c :: ·) (ih (p.next c))

theorem length_spotsFrom (p : Place) (cs : List Char) : (spotsFrom p cs).length = cs.length := by
  rw [← List.length_map Spot.char, map_char_spotsFrom]

theorem isDocumentMark_eq_false {s : Spot} (inLine : 0 < s.place.column) (rest : List Spot) :
    isDocumentMark (s :: rest) = false := by
  have notFirst : decide (s.place.column = 0) = false :=
    decide_eq_false (Nat.ne_of_gt inLine)
  unfold isDocumentMark
  split
  · next same =>
    cases same
    rw [notFirst, Bool.false_and, Bool.false_and, Bool.false_and, Bool.false_and]
  · rfl

theorem Ending.need_eq_ok {e : Ending} (sound : e.problem = none) (count : Nat)
    (spots : List Spot) : e.need count spots = .ok () := by
  rw [need, sound]

/-! ## White space on one line -/

theorem Gap.join_empty (text : List Char) : empty.join text = text := rfl

theorem Gap.broken_addWhite {g : Gap} (unbroken : g.broken = false) (c : Char) :
    (g.addWhite c).broken = false := by
  rw [addWhite, unbroken]
  rfl

theorem Gap.join_addWhite {g : Gap} (unbroken : g.broken = false) (c : Char) (text : List Char) :
    (g.addWhite c).join text = c :: g.join text := by
  simp [addWhite, join, Gap.text, unbroken]

/-! ## Quoted scalars -/

section Quoted

variable {e : Ending} {quote : Quote} {start p : Place} {gap : Gap} {sofar : List Char}

/-- A character that stands for itself between the quotes. -/
def IsOrdinary (quote : Quote) (c : Char) : Prop :=
  isBreak c = false ∧ c ≠ quote.char ∧ ¬ (quote = .double ∧ c = '\\')

/-- The characters `written` on a line inside quotes add `text` to what has been read. -/
def Adds (e : Ending) (quote : Quote) (start : Place) (written text : List Char) : Prop :=
  ∀ (p : Place) (gap : Gap) (sofar after : List Char), 0 < p.column → gap.broken = false →
    ∃ (gap' : Gap) (sofar' : List Char), gap'.broken = false ∧
      gap'.join sofar' = text.reverse ++ gap.join sofar ∧
      0 < (written.foldl Place.next p).column ∧
      takeQuoted e quote start gap sofar (spotsFrom p (written ++ after)) =
        takeQuoted e quote start gap' sofar' (spotsFrom (written.foldl Place.next p) after)

theorem Adds.append {written more text later : List Char} (first : Adds e quote start written text)
    (second : Adds e quote start more later) :
    Adds e quote start (written ++ more) (text ++ later) := by
  intro p gap sofar after inLine unbroken
  obtain ⟨gap₁, sofar₁, unbroken₁, joined₁, inLine₁, read₁⟩ :=
    first p gap sofar (more ++ after) inLine unbroken
  obtain ⟨gap₂, sofar₂, unbroken₂, joined₂, inLine₂, read₂⟩ :=
    second _ gap₁ sofar₁ after inLine₁ unbroken₁
  refine ⟨gap₂, sofar₂, unbroken₂, ?_, ?_, ?_⟩
  · rw [joined₂, joined₁, List.reverse_append, List.append_assoc]
  · rwa [List.foldl_append]
  · rw [List.append_assoc, List.foldl_append, read₁, read₂]

/-- A text may be read character by character. -/
theorem Adds.flatMap {write : Char → List Char} {cs : List Char}
    (each : ∀ c ∈ cs, Adds e quote start (write c) [c]) :
    Adds e quote start (cs.flatMap write) cs := by
  induction cs with
  | nil => exact fun p gap sofar after inLine unbroken => ⟨gap, sofar, unbroken, rfl, inLine, rfl⟩
  | cons c cs ih =>
    obtain ⟨first, later⟩ := List.forall_mem_cons.1 each
    exact first.append (ih later)

theorem adds_ordinary (sound : e.problem = none) {c : Char} (ordinary : IsOrdinary quote c) :
    Adds e quote start [c] [c] := by
  obtain ⟨noBreak, notQuote, notEscape⟩ := ordinary
  intro p gap sofar after inLine unbroken
  have inLineNext : 0 < (p.next c).column := by
    rw [Place.column_next noBreak]
    exact Nat.succ_pos _
  change ∃ gap' sofar', _ ∧ _ ∧ _ ∧ takeQuoted e quote start gap sofar (⟨c, p⟩ :: _) = _
  by_cases white : isWhite c = true
  · refine ⟨gap.addWhite c, sofar, Gap.broken_addWhite unbroken c,
      Gap.join_addWhite unbroken c sofar, inLineNext, ?_⟩
    rw [takeQuoted, if_pos white]
    rfl
  · refine ⟨.empty, c :: gap.join sofar, rfl, rfl, inLineNext, ?_⟩
    have isFalse : ¬ isBreak c = true := Bool.eq_false_iff.1 noBreak
    rw [takeQuoted, if_neg white, if_neg isFalse, Ending.need_eq_ok sound]
    dsimp only [bind, Except.bind]
    rw [isDocumentMark_eq_false inLine, if_neg Bool.false_ne_true, if_neg notQuote,
      if_neg notEscape]
    rfl

/-- An apostrophe is written twice between apostrophes. -/
theorem adds_apostrophe (sound : e.problem = none) :
    Adds e .single start ['\x27', '\x27'] ['\x27'] := by
  intro p gap sofar after inLine unbroken
  refine ⟨.empty, '\x27' :: gap.join sofar, rfl, rfl, Nat.succ_pos _, ?_⟩
  have noWhite : ¬ isWhite '\x27' = true := by decide
  have noBreak : ¬ isBreak '\x27' = true := by decide
  change takeQuoted e .single start gap sofar (⟨'\x27', p⟩ :: ⟨'\x27', p.next '\x27'⟩ :: _) = _
  rw [takeQuoted, if_neg noWhite, if_neg noBreak, Ending.need_eq_ok sound]
  dsimp only [bind, Except.bind]
  rw [isDocumentMark_eq_false inLine, if_neg Bool.false_ne_true, if_pos (by decide)]
  rfl

/-- An escape with eight digits stands for the character whose code they spell. -/
theorem adds_escape (sound : e.problem = none) {digits : List Char} {c : Char}
    (eight : digits.length = 8) (noBreaks : ∀ d ∈ digits, isBreak d = false)
    (spells : charOfDigits digits 8 = .ok c) :
    Adds e .double start ('\\' :: 'U' :: digits) [c] := by
  intro p gap sofar after inLine unbroken
  let q := (p.next '\\').next 'U'
  have spots : spotsFrom q (digits ++ after) =
      spotsFrom q digits ++ spotsFrom (digits.foldl Place.next q) after :=
    spotsFrom_append q digits after
  have taken : (spotsFrom q (digits ++ after)).take 8 = spotsFrom q digits := by
    rw [spots, List.take_left' ((length_spotsFrom q digits).trans eight)]
  have dropped : (spotsFrom q (digits ++ after)).drop 8 =
      spotsFrom (digits.foldl Place.next q) after := by
    rw [spots, List.drop_left' ((length_spotsFrom q digits).trans eight)]
  have inLineNext : 0 < (digits.foldl Place.next q).column := by
    rw [Place.column_foldl_next noBreaks]
    omega
  refine ⟨.empty, c :: gap.join sofar, rfl, rfl, inLineNext, ?_⟩
  have noWhite : ¬ isWhite '\\' = true := by decide
  have noBreak : ¬ isBreak '\\' = true := by decide
  change takeQuoted e .double start gap sofar
    (⟨'\\', p⟩ :: ⟨'U', p.next '\\'⟩ :: spotsFrom q (digits ++ after)) = _
  rw [takeQuoted, if_neg noWhite, if_neg noBreak, Ending.need_eq_ok sound]
  dsimp only [bind, Except.bind]
  rw [isDocumentMark_eq_false inLine, if_neg Bool.false_ne_true, if_neg (by decide),
    if_pos (by decide), if_neg (by decide)]
  have letter : escapeLetter? 'U' = none := rfl
  have width : escapeWidth? 'U' = some 8 := rfl
  simp only [letter, width]
  rw [Ending.need_eq_ok sound, taken, dropped, map_char_spotsFrom, spells]
  rfl

theorem digitsValue?_map {write : Char → Char} {base value : Nat} {cs : List Char}
    (same : ∀ c ∈ cs, digitValue? (write c) = digitValue? c) :
    digitsValue? base value (cs.map write) = digitsValue? base value cs := by
  induction cs generalizing value with
  | nil => rfl
  | cons c cs ih =>
    obtain ⟨first, later⟩ := List.forall_mem_cons.1 same
    rw [List.map_cons, digitsValue?, digitsValue?, first]
    simp only [ih later]

/-- A digit in capitals has the same value and does not end the line. -/
theorem toUpper_hexDigit : ∀ d < 16, digitValue? (hexDigit d).toUpper = digitValue? (hexDigit d) ∧
    isBreak (hexDigit d).toUpper = false := by
  decide

/-- The digits of an escape in capitals spell the code. -/
theorem charOfDigits_hexDigits (c : Char) :
    charOfDigits ((hexDigits 8 c.toNat).map Char.toUpper) 8 = .ok c := by
  have capitals : digitsValue? 16 0 ((hexDigits 8 c.toNat).map Char.toUpper) = some c.toNat := by
    rw [digitsValue?_map, Literal.digitsValue?_hexDigits, Nat.mod_eq_of_lt]
    · exact Nat.lt_trans (Literal.toNat_lt c) (by decide)
    · intro digit member
      obtain ⟨d, small, rfl⟩ := Literal.exists_of_mem_hexDigits member
      exact (toUpper_hexDigit d small).1
  have valid : c.toNat.isValidChar := c.valid
  rw [charOfDigits, List.length_map, Literal.length_hexDigits, if_neg (Nat.lt_irrefl 8), capitals]
  dsimp only
  rw [if_pos valid, Char.ofNat_toNat]

/-- A character that is not escaped stands for itself, and an escape for its character. -/
theorem adds_escapeWide (sound : e.problem = none) {c : Char} (ordinary : IsOrdinary .double c) :
    Adds e .double start (escapeWide c) [c] := by
  unfold escapeWide
  split
  · refine adds_escape sound ?_ ?_ (charOfDigits_hexDigits c)
    · rw [List.length_map, Literal.length_hexDigits]
    · intro d member
      obtain ⟨digit, inside, rfl⟩ := List.mem_map.1 member
      obtain ⟨value, small, rfl⟩ := Literal.exists_of_mem_hexDigits inside
      exact (toUpper_hexDigit value small).2
  · exact adds_ordinary sound ordinary

/-- The closing quote ends the scalar, with what has been read. -/
theorem takeQuoted_close (sound : e.problem = none) (inLine : 0 < p.column) {after : List Char}
    (closes : quote = .single → after.head? ≠ some '\x27') :
    takeQuoted e quote start gap sofar (spotsFrom p (quote.char :: after)) =
      .ok ((gap.join sofar).reverse, spotsFrom (p.next quote.char) after) := by
  have noWhite : ¬ isWhite quote.char = true := by cases quote <;> decide
  have noBreak : ¬ isBreak quote.char = true := by cases quote <;> decide
  change takeQuoted e quote start gap sofar (⟨quote.char, p⟩ :: _) = _
  rw [takeQuoted, if_neg noWhite, if_neg noBreak, Ending.need_eq_ok sound]
  dsimp only [bind, Except.bind]
  rw [isDocumentMark_eq_false inLine, if_neg Bool.false_ne_true, if_pos rfl]
  cases quote with
  | double => rfl
  | single =>
    cases after with
    | nil => rfl
    | cons c after =>
      have other : c ≠ '\x27' := fun same => closes rfl (congrArg some same)
      change (if c = '\x27' then _ else _) = _
      rw [if_neg other]
      rfl

/-- What has been added to nothing is read at the closing quote. -/
theorem Adds.takeQuoted_eq (sound : e.problem = none) {written text after : List Char}
    (adds : Adds e quote start written text) (inLine : 0 < p.column)
    (closes : quote = .single → after.head? ≠ some '\x27') :
    ∃ q, takeQuoted e quote start .empty [] (spotsFrom p (written ++ quote.char :: after)) =
      .ok (text, spotsFrom q after) := by
  obtain ⟨gap, sofar, -, joined, inLineNext, read⟩ :=
    adds p .empty [] (quote.char :: after) inLine rfl
  rw [read, takeQuoted_close sound inLineNext closes, joined, Gap.join_empty, List.append_nil,
    List.reverse_reverse]
  exact ⟨_, rfl⟩

end Quoted

/-! ## Plain scalars -/

section Plain

variable {e : Ending} {margin : Nat} {start p : Place} {gap : Gap} {sofar cs : List Char}

/-- A character that never ends a plain scalar outside braces and brackets. -/
def IsInner (c : Char) : Prop := isBreak c = false ∧ c ≠ ':' ∧ c ≠ '#'

instance (c : Char) : Decidable (IsInner c) := inferInstanceAs (Decidable (_ ∧ _ ∧ _))

theorem takePlain_inner (sound : e.problem = none) {c : Char} (inner : IsInner c)
    (margins : margin ≤ p.column) (inLine : 0 < p.column) (unbroken : gap.broken = false)
    (rest : List Spot) :
    takePlain e false margin start gap sofar (⟨c, p⟩ :: rest) =
      if isWhite c then takePlain e false margin start (gap.addWhite c) sofar rest
      else takePlain e false margin start .empty (c :: gap.join sofar) rest := by
  obtain ⟨noBreak, noColon, noNumber⟩ := inner
  have isFalse : ¬ isBreak c = true := Bool.eq_false_iff.1 noBreak
  have noMark : isDocumentMark (⟨c, p⟩ :: rest) = false := isDocumentMark_eq_false inLine rest
  have inside : endsAfterGap false margin ⟨c, p⟩ rest = false := by
    simp [endsAfterGap, noMark, margins, noNumber]
  have goesOn : endsPlain false c rest = false := by
    simp [endsPlain, noColon]
  rw [takePlain]
  by_cases white : isWhite c = true
  · rw [if_pos white, if_pos white, unbroken, Bool.false_and, Bool.false_and,
      if_neg Bool.false_ne_true]
  · rw [if_neg white, if_neg white, if_neg isFalse, Ending.need_eq_ok sound]
    dsimp only [bind, Except.bind]
    rw [inside, goesOn, Bool.and_false, Bool.or_false, if_neg Bool.false_ne_true]

/-- The characters of a line are added to what has been read. -/
theorem takePlain_append (sound : e.problem = none) (inner : ∀ c ∈ cs, IsInner c)
    (margins : margin ≤ p.column) (inLine : 0 < p.column) (unbroken : gap.broken = false)
    (after : List Char) :
    ∃ (gap' : Gap) (sofar' : List Char), gap'.broken = false ∧
      gap'.join sofar' = cs.reverse ++ gap.join sofar ∧
      takePlain e false margin start gap sofar (spotsFrom p (cs ++ after)) =
        takePlain e false margin start gap' sofar' (spotsFrom (cs.foldl Place.next p) after) := by
  induction cs generalizing p gap sofar with
  | nil => exact ⟨gap, sofar, unbroken, rfl, rfl⟩
  | cons c cs ih =>
    obtain ⟨first, later⟩ := List.forall_mem_cons.1 inner
    have column := Place.column_next first.1 p
    rw [List.cons_append, spotsFrom, takePlain_inner sound first margins inLine unbroken,
      List.reverse_cons, List.append_assoc, List.singleton_append]
    by_cases white : isWhite c = true
    · rw [if_pos white, ← Gap.join_addWhite unbroken]
      exact ih later (by omega) (by omega) (Gap.broken_addWhite unbroken c)
    · rw [if_neg white, ← Gap.join_empty (c :: gap.join sofar)]
      exact ih later (by omega) (by omega) rfl

/-- What follows a scalar that ends its line: nothing, or a line that is indented by less than
`margin`.  The second list is what follows the indentation. -/
inductive LineEnds (margin : Nat) : List Char → List Char → Prop
  | last : LineEnds margin ['\n'] []
  | next {indent : Nat} {c : Char} (less : indent < margin) (noWhite : isWhite c = false)
    (noBreak : isBreak c = false) (more : List Char) :
    LineEnds margin ('\n' :: (List.replicate indent ' ' ++ c :: more)) (c :: more)

theorem takePlain_indent (sound : e.problem = none) (broken : gap.broken = true) {indent : Nat}
    {c : Char} (less : p.column + indent < margin) (noWhite : isWhite c = false)
    (noBreak : isBreak c = false) (more : List Char) :
    ∃ q, takePlain e false margin start gap sofar
      (spotsFrom p (List.replicate indent ' ' ++ c :: more)) =
        .ok ⟨sofar.reverse, true, spotsFrom q (c :: more)⟩ := by
  have kept (d : Char) : gap.addWhite d = gap := by
    rw [Gap.addWhite, if_pos broken]
  induction indent generalizing p with
  | zero =>
    have left : p.column < margin := less
    refine ⟨p, ?_⟩
    change takePlain e false margin start gap sofar (⟨c, p⟩ :: _) = _
    rw [takePlain, noWhite, noBreak, Ending.need_eq_ok sound]
    simp [endsAfterGap, Gap.isEmpty, broken, left, bind, Except.bind, pure, Except.pure, spotsFrom]
  | succ indent ih =>
    have less' : (p.next ' ').column + indent < margin := by
      rw [Place.column_next (by decide)]
      omega
    obtain ⟨q, read⟩ := ih less'
    refine ⟨q, ?_⟩
    change takePlain e false margin start gap sofar (⟨' ', p⟩ :: _) = _
    have white : isWhite ' ' = true := by decide
    have noTab : (' ' == '\t') = false := by decide
    rw [takePlain, if_pos white, noTab, Bool.and_false, if_neg Bool.false_ne_true, kept]
    exact read

/-- The end of the line ends the scalar. -/
theorem takePlain_lineEnds (sound : e.problem = none) (unbroken : gap.broken = false)
    {after next : List Char} (ends : LineEnds margin after next) :
    ∃ q, takePlain e false margin start gap sofar (spotsFrom p after) =
      .ok ⟨sofar.reverse, true, spotsFrom q next⟩ := by
  have noWhite : ¬ isWhite '\n' = true := by decide
  have isEnd : isBreak '\n' = true := by decide
  have broken : (gap.addBreak '\n').broken = true := by
    rw [Gap.addBreak, unbroken]
    rfl
  cases ends with
  | last =>
    refine ⟨p, ?_⟩
    change takePlain e false margin start gap sofar [⟨'\n', p⟩] = _
    rw [takePlain, if_neg noWhite, if_pos isEnd, takePlain, Ending.need_eq_ok sound, broken]
    rfl
  | next less noWhiteNext noBreakNext more =>
    change ∃ q, takePlain e false margin start gap sofar (⟨'\n', p⟩ :: _) = _
    rw [takePlain, if_neg noWhite, if_pos isEnd]
    refine takePlain_indent sound broken ?_ noWhiteNext noBreakNext more
    rw [Place.next, if_pos isEnd]
    rwa [Nat.zero_add]

/-- A line is read as it stands unless it ends in white space. -/
theorem takePlain_eq (sound : e.problem = none) {c : Char} (inner : ∀ d ∈ cs ++ [c], IsInner d)
    (noWhite : isWhite c = false) (margins : margin ≤ p.column) (inLine : 0 < p.column)
    {after next : List Char} (ends : LineEnds margin after next) :
    ∃ q, takePlain e false margin start .empty [] (spotsFrom p (cs ++ [c] ++ after)) =
      .ok ⟨cs ++ [c], true, spotsFrom q next⟩ := by
  obtain ⟨innerFront, innerLast⟩ := List.forall_mem_append.1 inner
  have column := Place.column_foldl_next (fun d member => (innerFront d member).1) p
  obtain ⟨gap, sofar, unbroken, joined, read⟩ :=
    @takePlain_append e margin start p .empty [] cs sound innerFront margins inLine rfl
      (c :: after)
  have last : takePlain e false margin start gap sofar (⟨c, cs.foldl Place.next p⟩ :: _) = _ :=
    takePlain_inner sound (innerLast c (List.mem_singleton_self c)) (by omega) (by omega) unbroken
      (spotsFrom ((cs.foldl Place.next p).next c) after)
  rw [noWhite, if_neg Bool.false_ne_true, joined, Gap.join_empty, List.append_nil] at last
  obtain ⟨q, finished⟩ := @takePlain_lineEnds e margin start ((cs.foldl Place.next p).next c)
    .empty (c :: cs.reverse) sound rfl after next ends
  refine ⟨q, ?_⟩
  rw [List.append_assoc, List.singleton_append, read, spotsFrom, last, finished,
    List.reverse_cons, List.reverse_reverse]

end Plain

/-! ## Written scalars -/

/-- A string on one line, without colons, number signs, double quotes and backslashes, that starts
and ends with a character that stands for itself; but it may start with an apostrophe. -/
structure IsLine (cs : List Char) : Prop where
  starts : ∃ c ∈ cs.head?, isWhite c = false ∧ (c = '\x27' ∨ Layout.isMark c = false)
  stops : ∃ c ∈ cs.getLast?, isWhite c = false
  inner : ∀ c ∈ cs, IsInner c
  noEscape : ∀ c ∈ cs, c ≠ '"' ∧ c ≠ '\\'

instance (cs : List Char) : Decidable (IsLine cs) :=
  decidable_of_iff
    ((cs.head?.any fun c => !isWhite c && (c == '\x27' || !Layout.isMark c)) ∧
      (cs.getLast?.any fun c => !isWhite c) ∧
      cs.all fun c => decide (IsInner c) && (c != '"' && c != '\\')) <| by
    simp only [Option.any_eq_true, List.all_eq_true, Bool.and_eq_true, Bool.or_eq_true,
      Bool.not_eq_true', beq_iff_eq, bne_iff_ne, decide_eq_true_eq]
    constructor
    · rintro ⟨starts, stops, each⟩
      exact ⟨starts, stops, fun c member => (each c member).1, fun c member => (each c member).2⟩
    · intro line
      exact ⟨line.starts, line.stops, fun c member => ⟨line.inner c member, line.noEscape c member⟩⟩

/-- The scalar `written` at the place `p`, where a plain scalar has to be indented by `margin`, is
read as the string `s`, and `next` is left of what follows it. -/
inductive ReadsAs (e : Ending) (margin : Nat) (p : Place) (after next : List Char) (s : String) :
    List Char → Prop
  | plain {c : Char} {more : List Char} {q : Place} (spelt : s.toList = c :: more)
    (starts : isWhite c = false ∧ Layout.isMark c = false) (isString : tagOf s = .str)
    (read : takePlain e false margin p .empty [] (spotsFrom p (s.toList ++ after)) =
      .ok ⟨s.toList, true, spotsFrom q next⟩) :
    ReadsAs e margin p after next s s.toList
  | quoted (quote : Quote) {inside : List Char} {q : Place}
    (read : takeQuoted e quote p .empty [] (spotsFrom (p.next quote.char) (inside ++ after)) =
      .ok (s.toList, spotsFrom q after)) :
    ReadsAs e margin p after next s (quote.char :: inside)

section Written

variable {e : Ending} {margin : Nat} {p : Place} {after next : List Char} {s : String}

theorem LineEnds.head?_eq (ends : LineEnds margin after next) : after.head? = some '\n' := by
  cases ends <;> rfl

/-- A line is read back from between double quotes. -/
theorem doubleQuoted_readsAs (line : IsLine s.toList) (sound : e.problem = none) :
    ReadsAs e margin p after next s (doubleQuoted s.toList) := by
  have each : ∀ c ∈ s.toList, Adds e .double p (escapeWide c) [c] := by
    intro c member
    obtain ⟨noQuote, noBackslash⟩ := line.noEscape c member
    exact adds_escapeWide sound ⟨(line.inner c member).1, noQuote, fun both => noBackslash both.2⟩
  have inLineNext : 0 < (p.next '"').column := by
    rw [Place.column_next (by decide)]
    exact Nat.succ_pos _
  have closes : Quote.double = .single → after.head? ≠ some '\x27' := nofun
  obtain ⟨q, read⟩ := (Adds.flatMap each).takeQuoted_eq sound inLineNext closes
  refine .quoted .double (q := q) ?_
  rw [List.append_assoc]
  exact read

/-- A line is read back from between apostrophes. -/
theorem singleQuoted_readsAs (line : IsLine s.toList) (sound : e.problem = none)
    (ends : LineEnds margin after next) :
    ReadsAs e margin p after next s (singleQuoted s.toList) := by
  have each : ∀ c ∈ s.toList,
      Adds e .single p (if c = '\x27' then [c, c] else [c]) [c] := by
    intro c member
    split
    · next apostrophe =>
      rw [apostrophe]
      exact adds_apostrophe sound
    · next other => exact adds_ordinary sound ⟨(line.inner c member).1, other, nofun⟩
  have inLineNext : 0 < (p.next '\x27').column := by
    rw [Place.column_next (by decide)]
    exact Nat.succ_pos _
  have closes : Quote.single = .single → after.head? ≠ some '\x27' := by
    intro _
    rw [ends.head?_eq]
    decide
  obtain ⟨q, read⟩ := (Adds.flatMap each).takeQuoted_eq sound inLineNext closes
  refine .quoted .single (q := q) ?_
  rw [List.append_assoc]
  exact read

/-- A line that is written as a scalar is read as itself. -/
theorem scalar_readsAs (line : IsLine s.toList) (sound : e.problem = none)
    (margins : margin ≤ p.column) (inLine : 0 < p.column) (ends : LineEnds margin after next) :
    ReadsAs e margin p after next s (scalar s).toList := by
  have double : ReadsAs e margin p after next s (String.ofList (doubleQuoted s.toList)).toList := by
    rw [String.toList_ofList]
    exact doubleQuoted_readsAs line sound
  unfold scalar
  dsimp only
  split_ifs with wide special apostrophe
  · exact double
  · exact double
  · rw [String.toList_ofList]
    exact singleQuoted_readsAs line sound ends
  · obtain ⟨c, first, noWhite, start⟩ := line.starts
    obtain ⟨more, spelt⟩ := List.head?_eq_some_iff.1 first
    obtain ⟨isString, -⟩ := not_or.1 special
    have noMark : Layout.isMark c = false := by
      refine start.resolve_left fun same => apostrophe ?_
      rw [spelt, same]
      rfl
    obtain ⟨d, last, noWhiteLast⟩ := line.stops
    obtain ⟨front, ended⟩ := List.getLast?_eq_some_iff.1 last
    have inner := line.inner
    rw [ended] at inner
    obtain ⟨q, read⟩ := @takePlain_eq e margin p p front sound d inner noWhiteLast margins inLine
      after next ends
    rw [← ended] at read
    exact .plain spelt ⟨noWhite, noMark⟩ (not_not.1 isString) read

end Written

/-! ## Names and printed terms -/

/-- The characters that stand between the names of a printed term. -/
def signs : List Char := ['λ', '.', '(', ' ', ')']

/-- A character of a printed term. -/
def IsTextChar (c : Char) : Prop := isIdentChar c = true ∨ c ∈ signs

/-- The characters that end scalars, or that stand for something else inside them, and those that
scalars cannot start with. -/
def specialChars : List Char :=
  "\t\n\u2028\u2029:#\"\\".toList ++ "-?,[]\x7b\x7d&*!|>%@\x60".toList

/-- No special character belongs to a name, and a space does not either. -/
theorem isIdentChar_special : (' ' :: specialChars).all (fun d => !isIdentChar d) = true := by
  decide +kernel

theorem ne_of_isIdentChar {c d : Char} (ident : isIdentChar c = true)
    (special : d ∈ ' ' :: specialChars) : c ≠ d := by
  rintro rfl
  have other := List.all_eq_true.1 isIdentChar_special c special
  rw [ident] at other
  cases other

theorem IsTextChar.ne {c d : Char} (textual : IsTextChar c) (special : d ∈ specialChars) :
    c ≠ d := by
  rcases textual with ident | sign
  · exact ne_of_isIdentChar ident (List.mem_cons_of_mem _ special)
  · rintro rfl
    have apart : specialChars.all (fun d => !signs.contains d) = true := by decide
    have other := List.all_eq_true.1 apart c special
    rw [List.contains_iff_mem.2 sign] at other
    cases other

theorem IsTextChar.isInner {c : Char} (textual : IsTextChar c) : IsInner c := by
  have noBreak : isBreak c = false := by
    simp [isBreak, textual.ne (d := '\n') (by decide), textual.ne (d := '\u2028') (by decide),
      textual.ne (d := '\u2029') (by decide)]
  exact ⟨noBreak, textual.ne (by decide), textual.ne (by decide)⟩

theorem IsTextChar.isWhite_eq_false {c : Char} (textual : IsTextChar c) (noSpace : c ≠ ' ') :
    isWhite c = false := by
  simp [isWhite, noSpace, textual.ne (d := '\t') (by decide)]

theorem IsTextChar.isMark_eq_false {c : Char} (textual : IsTextChar c) (other : c ≠ '\x27') :
    Layout.isMark c = false := by
  by_contra mark
  rw [Bool.not_eq_false, Layout.isMark, List.contains_iff_mem] at mark
  have marks : "-?:,[]\x7b\x7d#&*!|>\x27\"%@\x60".toList.all (fun d =>
      d == '\x27' || specialChars.contains d) = true := by
    decide
  rcases Bool.or_eq_true_iff.1 (List.all_eq_true.1 marks c mark) with apostrophe | special
  · exact other (beq_iff_eq.1 apostrophe)
  · exact textual.ne (List.contains_iff_mem.1 special) rfl

/-- Text without a space at its ends is a line. -/
theorem isLine_of_isTextChar {cs : List Char} (textual : ∀ c ∈ cs, IsTextChar c)
    (starts : ∃ c more, cs = c :: more ∧ c ≠ ' ') (stops : ∃ front c, cs = front ++ [c] ∧ c ≠ ' ') :
    IsLine cs where
  starts := by
    obtain ⟨c, more, rfl, noSpace⟩ := starts
    have first := textual c List.mem_cons_self
    refine ⟨c, rfl, first.isWhite_eq_false noSpace, ?_⟩
    by_cases apostrophe : c = '\x27'
    · exact .inl apostrophe
    · exact .inr (first.isMark_eq_false apostrophe)
  stops := by
    obtain ⟨front, c, rfl, noSpace⟩ := stops
    have last := textual c (List.mem_append_right _ (List.mem_singleton_self c))
    exact ⟨c, List.getLast?_concat, last.isWhite_eq_false noSpace⟩
  inner c member := (textual c member).isInner
  noEscape c member := ⟨(textual c member).ne (by decide), (textual c member).ne (by decide)⟩

section Name

variable {name : String}

theorem name_starts (identifier : IsIdentifier name) :
    ∃ c more, name.toList = c :: more ∧ c ≠ ' ' := by
  obtain ⟨nonempty, ident, -⟩ := identifier
  obtain ⟨c, more, spelt⟩ := List.exists_cons_of_ne_nil nonempty
  refine ⟨c, more, spelt, ne_of_isIdentChar (ident c ?_) (by decide)⟩
  rw [spelt]
  exact List.mem_cons_self

theorem name_stops (identifier : IsIdentifier name) :
    ∃ front c, name.toList = front ++ [c] ∧ c ≠ ' ' := by
  obtain ⟨nonempty, ident, -⟩ := identifier
  exact ⟨_, _, (List.dropLast_concat_getLast nonempty).symm,
    ne_of_isIdentChar (ident _ (List.getLast_mem nonempty)) (by decide)⟩

/-- A name is a line. -/
theorem isLine_of_isIdentifier (identifier : IsIdentifier name) : IsLine name.toList :=
  isLine_of_isTextChar (fun c member => .inl (identifier.2.1 c member)) (name_starts identifier)
    (name_stops identifier)

end Name

section Term

variable {t : Term}

theorem isTextChar_of_mem_chars (named : ∀ name ∈ t.names, IsIdentifier name) :
    ∀ c ∈ t.chars, IsTextChar c := by
  have sign (c : Char) (member : c ∈ signs) : IsTextChar c := .inr member
  induction t with
  | var name =>
    rw [Term.chars_var]
    exact fun c member => .inl ((named name (List.mem_singleton_self name)).2.1 c member)
  | abs name body ih =>
    obtain ⟨binder, below⟩ := List.forall_mem_cons.1 named
    have name : ∀ c ∈ name.toList, IsTextChar c := fun c member => .inl (binder.2.1 c member)
    simp only [Term.chars_abs, List.forall_mem_cons, List.forall_mem_append]
    exact ⟨sign _ (by decide), name, sign _ (by decide), ih below⟩
  | app left right ihLeft ihRight =>
    obtain ⟨namedLeft, namedRight⟩ := List.forall_mem_append.1 named
    simp only [Term.chars_app, List.forall_mem_cons, List.forall_mem_append]
    exact ⟨sign _ (by decide), ihLeft namedLeft, sign _ (by decide), ihRight namedRight,
      sign _ (by decide), nofun⟩

theorem chars_starts (named : ∀ name ∈ t.names, IsIdentifier name) :
    ∃ c more, t.chars = c :: more ∧ c ≠ ' ' := by
  cases t with
  | var name =>
    rw [Term.chars_var]
    exact name_starts (named name (List.mem_singleton_self name))
  | abs name body => exact ⟨_, _, Term.chars_abs name body, by decide⟩
  | app left right => exact ⟨_, _, Term.chars_app left right, by decide⟩

theorem chars_stops (named : ∀ name ∈ t.names, IsIdentifier name) :
    ∃ front c, t.chars = front ++ [c] ∧ c ≠ ' ' := by
  induction t with
  | var name =>
    rw [Term.chars_var]
    exact name_stops (named name (List.mem_singleton_self name))
  | abs name body ih =>
    obtain ⟨front, c, stops, noSpace⟩ := ih (List.forall_mem_cons.1 named).2
    refine ⟨'λ' :: (name.toList ++ '.' :: front), c, ?_, noSpace⟩
    rw [Term.chars_abs, stops, List.cons_append, List.append_assoc, List.cons_append]
  | app left right =>
    refine ⟨'(' :: (left.chars ++ ' ' :: right.chars), ')', ?_, by decide⟩
    rw [Term.chars_app, List.cons_append, List.append_assoc, List.cons_append]

/-- A printed term is a line if its names are identifiers. -/
theorem isLine_text (named : ∀ name ∈ t.names, IsIdentifier name) : IsLine t.text.toList := by
  rw [Term.text, String.toList_ofList]
  exact isLine_of_isTextChar (isTextChar_of_mem_chars named) (chars_starts named)
    (chars_stops named)

end Term

/-- The name of a strategy is a line. -/
theorem isLine_of_ofName? {name : String} {strategy : Strategy}
    (known : Strategy.ofName? name = some strategy) : IsLine name.toList := by
  unfold Strategy.ofName? at known
  split at known
  case h_7 => cases known
  all_goals decide

/-! ## Documents -/

/-- The strings that a value holds. -/
def Value.strings : Value → List String
  | string s => [s]
  | bool _ => []
  | list items => items

namespace Document

/-- The name of a field can start its line. -/
def StartsLine (name : String) : Prop :=
  ∃ c ∈ name.toList.head?, isWhite c = false ∧ isBreak c = false

instance (name : String) : Decidable (StartsLine name) :=
  decidable_of_iff (name.toList.head?.any fun c => !isWhite c && !isBreak c) <| by
    simp only [Option.any_eq_true, Bool.and_eq_true, Bool.not_eq_true']
    rfl

/-- The names of the fields start their lines, and all strings are lines. -/
structure Fits (d : Document) : Prop where
  names : ∀ f ∈ d, StartsLine f.1
  lines : ∀ f ∈ d, ∀ s ∈ f.2.strings, IsLine s.toList

theorem Fits.nil : Fits [] := ⟨nofun, nofun⟩

theorem Fits.cons {name : String} {value : Value} {d : Document} (starts : StartsLine name)
    (lines : ∀ s ∈ value.strings, IsLine s.toList) (rest : Fits d) : Fits ((name, value) :: d) :=
  ⟨List.forall_mem_cons.2 ⟨starts, rest.names⟩, List.forall_mem_cons.2 ⟨lines, rest.lines⟩⟩

theorem Fits.string {name s : String} {d : Document} (starts : StartsLine name)
    (line : IsLine s.toList) (rest : Fits d) : Fits ((name, .string s) :: d) :=
  .cons starts (List.forall_mem_singleton.2 line) rest

theorem Fits.names_later {before later : Document} {f : String × Value}
    (fits : Fits (before ++ f :: later)) : ∀ g ∈ later, StartsLine g.1 := by
  intro g member
  exact fits.names g (List.mem_append_right _ (List.mem_cons_of_mem f member))

theorem toList_render (d : Document) :
    d.render.toList = d.flatMap fun f => f.1.toList ++ ':' :: f.2.render.toList := by
  simp [render, String.toList_join, List.flatMap, Function.comp_def]

/-- The lines of the items of a list. -/
def itemLines (items : List String) : List Char :=
  items.flatMap fun s => "  - ".toList ++ (scalar s).toList ++ ['\n']

theorem toList_render_list {items : List String} (nonempty : items ≠ []) :
    (Value.list items).render.toList = '\n' :: itemLines items := by
  cases items with
  | nil => exact (nonempty rfl).elim
  | cons s items =>
    simp [Value.render, itemLines, String.toList_join, List.flatMap, Function.comp_def]

variable {d before later : Document} {margin : Nat}

/-- The scalar at the end of a field is followed by the line of the next field, if there is one. -/
theorem lineEnds_render (names : ∀ f ∈ d, StartsLine f.1) (indented : 0 < margin) :
    LineEnds margin ('\n' :: d.render.toList) d.render.toList := by
  cases d with
  | nil => exact .last
  | cons f d =>
    obtain ⟨c, first, noWhite, noBreak⟩ := names f List.mem_cons_self
    obtain ⟨more, spelt⟩ := List.head?_eq_some_iff.1 first
    rw [toList_render, List.flatMap_cons, spelt]
    exact .next indented noWhite noBreak _

theorem dropWhile_render (names : ∀ f ∈ d, StartsLine f.1) :
    d.render.toList.dropWhile (· == ' ') = d.render.toList := by
  cases d with
  | nil => rfl
  | cons f d =>
    obtain ⟨c, first, noWhite, -⟩ := names f List.mem_cons_self
    obtain ⟨more, spelt⟩ := List.head?_eq_some_iff.1 first
    have noSpace : ¬ (c == ' ') = true :=
      Bool.eq_false_iff.1 (Bool.or_eq_false_iff.1 noWhite).1
    rw [toList_render, List.flatMap_cons, spelt]
    exact List.dropWhile_cons_of_neg noSpace

/-- An item of a list is followed by the next item, or by what follows the list. -/
theorem lineEnds_itemLines (names : ∀ f ∈ d, StartsLine f.1) (items : List String) :
    LineEnds 3 ('\n' :: (itemLines items ++ d.render.toList))
      ((itemLines items ++ d.render.toList).dropWhile (· == ' ')) := by
  cases items with
  | nil =>
    rw [itemLines, List.flatMap_nil, List.nil_append, dropWhile_render names]
    exact lineEnds_render names (by decide)
  | cons s items => exact @LineEnds.next 3 2 '-' (by decide) (by decide) (by decide) _

section ReadsAs

variable {e : Ending} {name s : String}

/-- A string that is the value of a field is read back at its place. -/
theorem string_readsAs (fits : Fits (before ++ (name, .string s) :: later))
    (sound : e.problem = none) :
    let front := before.render.toList ++ name.toList ++ [':', ' ']
    let after := '\n' :: later.render.toList
    (render (before ++ (name, .string s) :: later)).toList = front ++ (scalar s).toList ++ after ∧
      ReadsAs e 1 (front.foldl Place.next .origin) after later.render.toList s
        (scalar s).toList := by
  intro front after
  constructor
  · simp [front, after, toList_render, Value.render]
  · have line := fits.lines (name, .string s) (by simp) s (List.mem_singleton_self s)
    have inLine : 1 ≤ (front.foldl Place.next .origin).column := by
      rw [List.foldl_append, Place.column_foldl_next (by simp [isBreak])]
      exact Nat.le_add_left 1 _
    exact scalar_readsAs line sound inLine inLine (lineEnds_render fits.names_later Nat.one_pos)

/-- An item of a list that is the value of a field is read back at its place. -/
theorem item_readsAs {items more : List String}
    (fits : Fits (before ++ (name, .list (items ++ s :: more)) :: later))
    (sound : e.problem = none) :
    let front := before.render.toList ++ name.toList ++ [':', '\n'] ++ itemLines items ++
      "  - ".toList
    let after := itemLines more ++ later.render.toList
    (render (before ++ (name, .list (items ++ s :: more)) :: later)).toList =
        front ++ (scalar s).toList ++ '\n' :: after ∧
      ReadsAs e 3 (front.foldl Place.next .origin) ('\n' :: after)
        (after.dropWhile (· == ' ')) s (scalar s).toList := by
  intro front after
  constructor
  · simp [front, after, toList_render, toList_render_list, itemLines]
  · have line := fits.lines (name, .list (items ++ s :: more)) (by simp) s (by simp [Value.strings])
    have column : (front.foldl Place.next .origin).column = _ :=
      (congrArg Place.column List.foldl_append).trans
        (Place.column_foldl_next (by simp [isBreak]) _)
    have inLine : 4 ≤ (front.foldl Place.next .origin).column := by
      rw [column]
      exact Nat.le_add_left 4 _
    exact scalar_readsAs line sound (by omega) (by omega) (lineEnds_itemLines fits.names_later more)

end ReadsAs

example : render
      [("term", .string "(\x27x 𝓍)"), ("free", .list ["\x27x", "𝓍", "0x1F", "no", "z"])] =
    "term: \"(\x27x \\U0001D4CD)\"\nfree:\n  - \x27\x27\x27x\x27\n  - \"\\U0001D4CD\"\n" ++
      "  - \"0x1F\"\n  - \"no\"\n  - z\n" := by
  decide +kernel

end Document

end Yaml

end Stepwise
