import Stepwise.Yaml.Source

/-!
# Places in a document

A `Spot` is a character with its place: its index, its line and its column, all counted from zero.
Readers of tokens walk along spots, and `Ending` tells them what stands behind the last one.
-/

namespace Stepwise

namespace Yaml

/-- A place in a document. -/
structure Place where
  index : Nat
  line : Nat
  column : Nat
deriving DecidableEq

/-- Where a document starts. -/
def Place.origin : Place := ⟨0, 0, 0⟩

/-- A character with its place. -/
structure Spot where
  char : Char
  place : Place

/-- A space or a tab. -/
def isWhite (c : Char) : Bool := c == ' ' || c == '\t'

/-- A character that ends a line. -/
def isBreak (c : Char) : Bool := c == '\n' || c == '\u2028' || c == '\u2029'

/-- The place behind a character at the place `p`. -/
def Place.next (p : Place) (c : Char) : Place :=
  if isBreak c then ⟨p.index + 1, p.line + 1, 0⟩ else ⟨p.index + 1, p.line, p.column + 1⟩

/-- The characters with their places, from the place `p` on. -/
def spotsFrom (p : Place) : List Char → List Spot
  | [] => []
  | c :: cs => ⟨c, p⟩ :: spotsFrom (p.next c) cs

/-- Where the characters of a document end, and the problem that lies behind them. -/
structure Ending where
  place : Place
  problem : Option Problem

namespace Ending

/-- The ending of a source. -/
def ofSource (source : Source) : Ending :=
  ⟨source.chars.foldl Place.next Place.origin, source.problem⟩

/-- The place of the first of the spots, or of the ending. -/
def here (e : Ending) : List Spot → Place
  | [] => e.place
  | s :: _ => s.place

/-- Asks for `count` characters.  Fewer are enough at a sound end, which nothing lies behind. -/
def need (e : Ending) (count : Nat) (spots : List Spot) : Except Fault Unit :=
  match e.problem with
  | none => .ok ()
  | some problem =>
    if (spots.drop (count - 1)).isEmpty then .error (.ofProblem problem) else .ok ()

/-- The line on which the end of the document is noticed: the next one, unless the last line has
been ended. -/
def lastLine (e : Ending) : Nat := if e.place.column = 0 then e.place.line else e.place.line + 1

end Ending

/-- Whether a character satisfies `p` at the front. -/
def startsWith (p : Char → Bool) : List Spot → Bool
  | [] => false
  | s :: _ => p s.char

/-- Whether nothing follows, or a space, a tab or a line break. -/
def atGap : List Spot → Bool
  | [] => true
  | s :: _ => isWhite s.char || isBreak s.char

/-- Whether three dashes or three points start a line and nothing else follows them closely. -/
def isDocumentMark : List Spot → Bool
  | a :: b :: c :: rest =>
    a.place.column = 0 && (a.char == '-' || a.char == '.') && b.char == a.char &&
      c.char == a.char && atGap rest
  | _ => false

end Yaml

end Stepwise
