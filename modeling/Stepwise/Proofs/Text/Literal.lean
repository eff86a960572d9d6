import Mathlib.Algebra.Group.Nat.Defs
import Stepwise.Text.Octets
import Stepwise.Text.Quoted
import Stepwise.Yaml.Digits

/-!
# Quoted text as a literal

Quoted text ends up in a program, where it is a string literal between double quotes.  A literal
denotes octets: a character stands for its own octets, a backslash starts an escape, and an escape
with two hexadecimal or three octal digits is a single octet.  A line must not end inside.

`Literal.read` reads a literal from the front of a program by these rules, which say nothing about
how quoted text is made.  Whatever text is quoted, reading gives back its octets and what follows
the closing quote (`Literal.read_quoted`), so no text ends its own literal early.  Nor does any text
end the line of its literal (`Literal.newline_not_mem_quoted`).
-/

namespace Stepwise

namespace Literal

open Yaml (digitValue? digitsValue?)

/-! ## Reading a literal -/

/-- The number that the first `width` characters spell in the given base. -/
def number? (base width : Nat) (cs : List Char) : Option Nat :=
  if cs.length < width then none else digitsValue? base 0 (cs.take width)

/-- The octets of the character with the given code. -/
def codeOctets? (code : Nat) : Option (List Nat) :=
  if code.isValidChar then some (octets (Char.ofNat code)) else none

/-- The character that a letter after a backslash stands for. -/
def escapedChar? : Char → Option Char
  | 'a' => some '\x07'
  | 'b' => some '\x08'
  | 'f' => some '\x0c'
  | 'n' => some '\n'
  | 'r' => some '\r'
  | 't' => some '\t'
  | 'v' => some '\x0b'
  | '\\' => some '\\'
  | '"' => some '"'
  | _ => none

/-- What the characters after a backslash stand for, with their number. -/
def escape? : List Char → Option (List Nat × Nat)
  | 'x' :: cs => (number? 16 2 cs).map fun n => ([n], 3)
  | 'u' :: cs => ((number? 16 4 cs).bind codeOctets?).map fun os => (os, 5)
  | 'U' :: cs => ((number? 16 8 cs).bind codeOctets?).map fun os => (os, 9)
  | c :: cs =>
    match escapedChar? c with
    | some d => some (octets d, 1)
    | none => ((number? 8 3 (c :: cs)).filter (· < 0x100)).map fun n => ([n], 3)
  | [] => none

/-- What the front of the characters inside a literal stands for, with the number of characters that
follow the first one. -/
def front? : List Char → Option (List Nat × Nat)
  | '\\' :: cs => escape? cs
  | '\n' :: _ => none
  | c :: _ => some (octets c, 0)
  | [] => none

/-- Reads the inside of a literal and its closing quote after passing over the first `skip`
characters, which belong to an escape that has already been taken. -/
def readFrom : Nat → List Char → Option (List Nat × List Char)
  | _, [] => none
  | skip + 1, _ :: cs => readFrom skip cs
  | 0, c :: cs =>
    if c = '"' then some ([], cs)
    else
      match front? (c :: cs) with
      | some (os, more) => (readFrom more cs).map fun p => (os ++ p.1, p.2)
      | none => none

/-- The octets that the literal at the front of a program denotes, and what follows it. -/
def read : List Char → Option (List Nat × List Char)
  | '"' :: cs => readFrom 0 cs
  | _ => none

theorem readFrom_append (skipped cs : List Char) :
    readFrom skipped.length (skipped ++ cs) = readFrom 0 cs := by
  induction skipped with
  | nil => rfl
  | cons c skipped ih => exact ih

/-- A front part that stands for octets is read as these, before what follows it. -/
theorem readFrom_front {c : Char} (more : List Char) {cs : List Char} {os : List Nat}
    (notQuote : c ≠ '"') (stands : front? (c :: (more ++ cs)) = some (os, more.length)) :
    readFrom 0 (c :: (more ++ cs)) = (readFrom 0 cs).map fun p => (os ++ p.1, p.2) := by
  rw [readFrom, if_neg notQuote, stands]
  dsimp only
  rw [readFrom_append]

/-! ## Hexadecimal digits -/

theorem length_hexDigits (width n : Nat) : (hexDigits width n).length = width := by
  induction width generalizing n with
  | zero => rfl
  | succ width ih => rw [hexDigits, List.length_append, ih, List.length_singleton]

theorem exists_of_mem_hexDigits {c : Char} {width n : Nat} (member : c ∈ hexDigits width n) :
    ∃ d < 16, c = hexDigit d := by
  induction width generalizing n with
  | zero => exact (List.not_mem_nil member).elim
  | succ width ih =>
    rcases List.mem_append.1 member with earlier | last
    · exact ih earlier
    · exact ⟨n % 16, Nat.mod_lt n (by decide), List.mem_singleton.1 last⟩

theorem digitValue?_hexDigit : ∀ d < 16, digitValue? (hexDigit d) = some d := by
  decide

theorem digitsValue?_append {base value between : Nat} {cs ds : List Char}
    (first : digitsValue? base value cs = some between) :
    digitsValue? base value (cs ++ ds) = digitsValue? base between ds := by
  induction cs generalizing value with
  | nil =>
    cases first
    rfl
  | cons c cs ih =>
    rw [digitsValue?] at first
    rw [List.cons_append, digitsValue?]
    cases digit : digitValue? c with
    | none =>
      rw [digit] at first
      cases first
    | some d =>
      rw [digit] at first
      dsimp only at first ⊢
      split at first
      · next small =>
        rw [if_pos small]
        exact ih first
      · cases first

/-- The digits of a number spell it, up to the number of digits. -/
theorem digitsValue?_hexDigits (width n : Nat) :
    digitsValue? 16 0 (hexDigits width n) = some (n % 16 ^ width) := by
  induction width generalizing n with
  | zero => rw [Nat.pow_zero, Nat.mod_one]; rfl
  | succ width ih =>
    have small : n % 16 < 16 := Nat.mod_lt n (by decide)
    have value : n / 16 % 16 ^ width * 16 + n % 16 = n % 16 ^ (width + 1) := by
      rw [Nat.pow_succ', Nat.mod_mul]
      omega
    rw [hexDigits, digitsValue?_append (ih (n / 16)), digitsValue?, digitValue?_hexDigit _ small]
    dsimp only
    rw [if_pos small, value]
    rfl

theorem number?_hexDigits {width n : Nat} (fits : n < 16 ^ width) (cs : List Char) :
    number? 16 width (hexDigits width n ++ cs) = some n := by
  have enough : ¬ (hexDigits width n ++ cs).length < width := by
    rw [List.length_append, length_hexDigits]
    omega
  have taken : (hexDigits width n ++ cs).take width = hexDigits width n :=
    List.take_left' (length_hexDigits width n)
  rw [number?, if_neg enough, taken, digitsValue?_hexDigits, Nat.mod_eq_of_lt fits]

theorem codeOctets?_toNat (c : Char) : codeOctets? c.toNat = some (octets c) := by
  have valid : c.toNat.isValidChar := c.valid
  rw [codeOctets?, if_pos valid, Char.ofNat_toNat]

theorem toNat_lt (c : Char) : c.toNat < 0x110000 := by
  rcases c.valid with below | ⟨-, below⟩
  · exact Nat.lt_trans below (by decide)
  · exact below

/-! ## Quoted text is read back -/

/-- Every escape of a quoted glyph stands for the octets of the glyph. -/
theorem escape?_of_escapeCode {c : Char} (cs : List Char) :
    ∃ letter digits, Quoted.escapeCode c = '\\' :: letter :: digits ∧
      escape? (letter :: (digits ++ cs)) = some (octets c, digits.length + 1) := by
  unfold Quoted.escapeCode
  split
  · next ascii =>
    have fits : c.toNat < 16 ^ 2 := Nat.lt_trans ascii (by decide)
    refine ⟨'x', _, rfl, ?_⟩
    rw [escape?, number?_hexDigits fits, length_hexDigits]
    simp [octets, ascii]
  · split
    · next narrow =>
      have fits : c.toNat < 16 ^ 4 := Nat.lt_succ_of_le narrow
      refine ⟨'u', _, rfl, ?_⟩
      rw [escape?, number?_hexDigits fits, length_hexDigits, Option.bind_some, codeOctets?_toNat]
      rfl
    · have fits : c.toNat < 16 ^ 8 := Nat.lt_trans (toNat_lt c) (by decide)
      refine ⟨'U', _, rfl, ?_⟩
      rw [escape?, number?_hexDigits fits, length_hexDigits, Option.bind_some, codeOctets?_toNat]
      rfl

theorem escape?_of_controlLetter {c letter : Char} (named : Quoted.controlLetter? c = some letter)
    (cs : List Char) : escape? (letter :: cs) = some (octets c, 1) := by
  have code : c = Char.ofNat c.toNat := (Char.ofNat_toNat c).symm
  unfold Quoted.controlLetter? at named
  split at named
  case h_8 => cases named
  all_goals
    next same =>
      cases named
      rw [code, same]
      rfl

/-- A quoted glyph is read as its octets. -/
theorem readFrom_escapeGlyph (g : Glyph) (cs : List Char) :
    readFrom 0 (Quoted.escapeGlyph g ++ cs) =
      (readFrom 0 cs).map fun p => (g.octets ++ p.1, p.2) := by
  cases g with
  | stray b =>
    have fits : b.toNat < 16 ^ 2 := b.toNat_lt
    have stands : front? ('\\' :: ('x' :: hexDigits 2 b.toNat ++ cs)) =
        some ([b.toNat], ('x' :: hexDigits 2 b.toNat).length) := by
      rw [front?, List.cons_append, escape?, number?_hexDigits fits, List.length_cons,
        length_hexDigits]
      rfl
    exact readFrom_front _ (by decide) stands
  | char c =>
    change readFrom 0 (Quoted.escape '"' c ++ cs) = _
    unfold Quoted.escape
    split
    · next special =>
      rcases special with rfl | rfl
      · exact readFrom_front ['"'] (by decide) rfl
      · exact readFrom_front ['\\'] (by decide) rfl
    · next ordinary =>
      obtain ⟨notQuote, notBackslash⟩ := not_or.1 ordinary
      split
      · next printable =>
        have notNewline : c ≠ '\n' := by
          rintro rfl
          exact absurd printable (by decide)
        refine readFrom_front [] notQuote ?_
        unfold front?
        split <;> simp_all [Glyph.octets]
      · split
        · next letter named =>
          exact readFrom_front [letter] (by decide) (escape?_of_controlLetter named cs)
        · obtain ⟨letter, digits, spelt, stands⟩ := escape?_of_escapeCode (c := c) cs
          rw [spelt]
          exact readFrom_front (letter :: digits) (by decide) stands

/-- Quoted text is a literal that denotes its octets, whatever follows it. -/
theorem read_quoted (t : Text) (cs : List Char) :
    read (t.quoted.toList ++ cs) = some (t.octets, cs) := by
  have inside : readFrom 0 (t.flatMap Quoted.escapeGlyph ++ '"' :: cs) = some (t.octets, cs) := by
    induction t with
    | nil => rfl
    | cons g t ih =>
      rw [List.flatMap_cons, List.append_assoc, readFrom_escapeGlyph, ih]
      rfl
  rw [Text.quoted, String.toList_ofList, List.cons_append, List.append_assoc]
  exact inside

/-! ## Quoted text lies on one line -/

theorem hexDigit_ne_newline : ∀ d < 16, hexDigit d ≠ '\n' := by
  decide

theorem newline_not_mem_hexDigits (width n : Nat) : '\n' ∉ hexDigits width n := by
  intro member
  obtain ⟨d, small, same⟩ := exists_of_mem_hexDigits member
  exact hexDigit_ne_newline d small same.symm

theorem newline_not_mem_escapeCode (c : Char) : '\n' ∉ Quoted.escapeCode c := by
  unfold Quoted.escapeCode
  split
  · simp [newline_not_mem_hexDigits]
  · split <;> simp [newline_not_mem_hexDigits]

theorem newline_not_mem_escapeGlyph (g : Glyph) : '\n' ∉ Quoted.escapeGlyph g := by
  cases g with
  | stray b => simp [Quoted.escapeGlyph, newline_not_mem_hexDigits]
  | char c =>
    change '\n' ∉ Quoted.escape '"' c
    unfold Quoted.escape
    split
    · next special => rcases special with rfl | rfl <;> decide
    · split
      · next printable =>
        rw [List.mem_singleton]
        rintro rfl
        exact absurd printable (by decide)
      · split
        · next letter named =>
          unfold Quoted.controlLetter? at named
          split at named <;> cases named <;> decide
        · exact newline_not_mem_escapeCode c

theorem newline_not_mem_quoted (t : Text) : '\n' ∉ t.quoted.toList := by
  rw [Text.quoted, String.toList_ofList, List.mem_cons, List.mem_append, List.mem_flatMap]
  rintro (quote | ⟨g, -, inside⟩ | quote)
  · exact absurd quote (by decide)
  · exact newline_not_mem_escapeGlyph g inside
  · exact absurd quote (by decide)

end Literal

end Stepwise
