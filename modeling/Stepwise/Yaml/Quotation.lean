import Stepwise.Yaml.Gap

/-!
# Quoted scalars

Between apostrophes an apostrophe is written twice and everything else stands for itself.  Between
double quotes a backslash starts an escape; before a line break it joins the lines without a space.
-/

namespace Stepwise

namespace Yaml

/-- The character that a letter after a backslash stands for. -/
def escapeLetter? : Char → Option Char
  | '0' => some '\x00'
  | 'a' => some '\x07'
  | 'b' => some '\x08'
  | 't' | '\t' => some '\t'
  | 'n' => some '\n'
  | 'v' => some '\x0b'
  | 'f' => some '\x0c'
  | 'r' => some '\r'
  | 'e' => some '\x1b'
  | ' ' => some ' '
  | '"' => some '"'
  | '\x27' => some '\x27'
  | '\\' => some '\\'
  | 'N' => some '\u0085'
  | '_' => some '\u00A0'
  | 'L' => some '\u2028'
  | 'P' => some '\u2029'
  | _ => none

/-- The number of hexadecimal digits that follow a letter after a backslash. -/
def escapeWidth? : Char → Option Nat
  | 'x' => some 2
  | 'u' => some 4
  | 'U' => some 8
  | _ => none

/-- The character with the code that the digits spell. -/
def charOfDigits (digits : List Char) (width : Nat) : Except Problem Char :=
  if digits.length < width then .error .badEscapeDigits
  else
    match digitsValue? 16 0 digits with
    | none => .error .badEscapeDigits
    | some n => if n.isValidChar then .ok (Char.ofNat n) else .error .badEscapeCode

/-- The quotes that a scalar stands between. -/
inductive Quote where
  | single
  | double
deriving DecidableEq

/-- The character of a quote. -/
def Quote.char : Quote → Char
  | single => '\x27'
  | double => '"'

/-- Reads a quoted scalar that began at `start`, after its opening quote: `gap` is the white space
just passed and `text` the characters before it, last first.  The result is the text and what
follows the closing quote. -/
def takeQuoted (e : Ending) (quote : Quote) (start : Place) (gap : Gap) (text : List Char)
    (spots : List Spot) : Except Fault (List Char × List Spot) :=
  match spots with
  | [] => do
    e.need 1 []
    throw (.ofToken .unclosedQuote start.line e.place.line)
  | s :: rest =>
    if isWhite s.char then takeQuoted e quote start (gap.addWhite s.char) text rest
    else if isBreak s.char then takeQuoted e quote start (gap.addBreak s.char) text rest
    else do
      e.need (if gap.isEmpty then 2 else 4) (s :: rest)
      let fault (problem : Problem) : Fault := .ofToken problem start.line s.place.line
      let text := gap.join text
      if isDocumentMark (s :: rest) then throw (fault .markInQuotes)
      else if s.char = quote.char then
        match quote, rest with
        | .single, q :: after =>
          if q.char = '\x27' then takeQuoted e quote start .empty ('\x27' :: text) after
          else return (text.reverse, rest)
        | _, _ => return (text.reverse, rest)
      else if quote = .double ∧ s.char = '\\' then
        match rest with
        | [] => throw (fault .unknownEscape)
        | x :: after =>
          if isBreak x.char then takeQuoted e quote start .escaped text after
          else
            match escapeLetter? x.char, escapeWidth? x.char with
            | some c, _ => takeQuoted e quote start .empty (c :: text) after
            | none, some width => do
              e.need width after
              let digits := (after.take width).map Spot.char
              match charOfDigits digits width with
              | .ok c => takeQuoted e quote start .empty (c :: text) (after.drop width)
              | .error problem => throw (fault problem)
            | none, none => throw (fault .unknownEscape)
      else takeQuoted e quote start .empty (s.char :: text) rest
termination_by spots.length
decreasing_by all_goals grind

end Yaml

end Stepwise
