import Stepwise.Yaml.Gap

/-!
# Plain scalars

A plain scalar stands without quotes.  It ends before a colon that a gap follows, before a number
sign that follows a gap, before a line that is not indented enough or that starts with a document
mark, and inside braces or brackets before each of the characters that have a meaning there.
-/

namespace Stepwise

namespace Yaml

/-- A plain scalar that was read. -/
structure PlainRun where
  text : List Char
  /-- Whether lines have ended behind the scalar. -/
  lineEnded : Bool
  rest : List Spot

/-- The characters that have a meaning of their own inside braces and brackets. -/
def isFlowMark (c : Char) : Bool := ",?[]\x7b\x7d".toList.contains c

/-- Whether a plain scalar ends before the character `c`, which `rest` follows. -/
def endsPlain (inFlow : Bool) (c : Char) (rest : List Spot) : Bool :=
  (c == ':' && atGap rest) || (inFlow && isFlowMark c)

/-- Whether a plain scalar ends before the spot `s` because of the gap before it.  `margin` is the
least column of its lines outside braces and brackets. -/
def endsAfterGap (inFlow : Bool) (margin : Nat) (s : Spot) (rest : List Spot) : Bool :=
  (!inFlow && s.place.column < margin) || isDocumentMark (s :: rest) || s.char == '#'

/-- Reads a plain scalar that began at `start`: `gap` is the white space just passed and `text` the
characters before it, last first. -/
def takePlain (e : Ending) (inFlow : Bool) (margin : Nat) (start : Place) (gap : Gap)
    (text : List Char) : List Spot → Except Fault PlainRun
  | [] => do
    e.need 1 []
    return ⟨text.reverse, gap.broken, []⟩
  | s :: rest =>
    if isWhite s.char then
      if gap.broken && s.place.column < margin && s.char == '\t' then
        .error (.ofToken .tabInIndentation start.line s.place.line)
      else takePlain e inFlow margin start (gap.addWhite s.char) text rest
    else if isBreak s.char then
      takePlain e inFlow margin start (gap.addBreak s.char) text rest
    else do
      e.need (if gap.isEmpty then 2 else 4) (s :: rest)
      if (!gap.isEmpty && endsAfterGap inFlow margin s rest) || endsPlain inFlow s.char rest then
        return ⟨text.reverse, gap.broken, s :: rest⟩
      else takePlain e inFlow margin start .empty (s.char :: gap.join text) rest

end Yaml

end Stepwise
