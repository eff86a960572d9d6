import Stepwise.Yaml.Spot

/-!
# Block scalars

A block scalar is announced by `|` or `>` and takes the lines after it that are indented enough.
After `|` every line break is kept.  After `>` a line break between two lines that do not start with
white space is folded as in other scalars.  What stands behind the mark says what becomes of the
breaks at the end and how far the lines are indented; by default, as far as the first line that is
not empty.
-/

namespace Stepwise

namespace Yaml

/-- What becomes of the line breaks at the end of a block scalar. -/
inductive Chomping where
  | strip
  | clip
  | keep
deriving DecidableEq

/-- What the first line of a block scalar says. -/
structure BlockHeader where
  chomping : Chomping
  /-- By how much the lines are indented further than what is around them; zero if not given. -/
  indent : Nat

/-- The chomping that a character asks for. -/
def chomping? (c : Char) : Option Chomping :=
  if c = '+' then some .keep else if c = '-' then some .strip else none

/-- The chomping at the front, and what follows it. -/
def takeChomping : List Spot → Chomping × List Spot
  | [] => (.clip, [])
  | s :: rest =>
    match chomping? s.char with
    | some chomping => (chomping, rest)
    | none => (.clip, s :: rest)

/-- The indentation at the front, and what follows it. -/
def takeIndent : List Spot → Except Problem (Nat × List Spot)
  | [] => .ok (0, [])
  | s :: rest =>
    if s.char = '0' then .error .zeroIndentation
    else if s.char.isDigit then .ok (s.char.toNat - 0x30, rest)
    else .ok (0, s :: rest)

/-- What stands behind the mark of a block scalar, in either order. -/
def takeBlockHeader (spots : List Spot) : Except Problem (BlockHeader × List Spot) :=
  if startsWith (fun c => (chomping? c).isSome) spots then do
    let (chomping, rest) := takeChomping spots
    let (indent, rest) ← takeIndent rest
    return (⟨chomping, indent⟩, rest)
  else do
    let (indent, rest) ← takeIndent spots
    let (chomping, rest) := if indent = 0 then (Chomping.clip, rest) else takeChomping rest
    return (⟨chomping, indent⟩, rest)

/-- What follows the end of a line that may only hold white space and a comment. -/
def afterLine (spots : List Spot) : Except Problem (List Spot) :=
  let rest := spots.dropWhile fun s => isWhite s.char
  let rest := if startsWith (· == '#') rest then rest.dropWhile (!isBreak ·.char) else rest
  match rest with
  | [] => .ok []
  | s :: after => if isBreak s.char then .ok after else .error .noLineEnd

/-- The lines of a block scalar that have been read. -/
structure BlockLines where
  /-- The characters, last first. -/
  text : List Char
  /-- The column in which the lines start; zero as long as it is not known. -/
  margin : Nat
  /-- The furthest column in which an empty line ends while the margin is not known. -/
  widest : Nat
  /-- The break of the last line, if it has ended. -/
  first : Option Char
  /-- The breaks of the empty lines after it, last first. -/
  more : List Char
  /-- Whether the last line starts with white space. -/
  indented : Bool

namespace BlockLines

/-- Starts a line with the character `c`.  If `folded`, the break before it may become a space. -/
def startLine (b : BlockLines) (folded : Bool) (c : Char) : BlockLines :=
  let gap :=
    if folded && !b.indented && !isWhite c && b.first == some '\n' then
      if b.more.isEmpty then [' '] else b.more
    else b.more ++ b.first.toList
  { b with text := c :: (gap ++ b.text), first := none, more := [], indented := isWhite c }

/-- The text, with the breaks at its end chomped. -/
def result (b : BlockLines) : Chomping → List Char
  | .strip => b.text.reverse
  | .clip => b.text.reverse ++ b.first.toList
  | .keep => b.text.reverse ++ b.first.toList ++ b.more.reverse

end BlockLines

/-- Reads the lines of a block scalar that began at `start`.  `least` is the least margin, and
`inLine` says whether the spots go on with a line or with what stands before one. -/
def takeBlock (e : Ending) (folded : Bool) (least : Nat) (start : Place) (inLine : Bool)
    (b : BlockLines) : List Spot → Except Fault (BlockLines × List Spot)
  | [] => do
    e.need 1 []
    return (b, [])
  | s :: rest =>
    if inLine then
      if isBreak s.char then
        takeBlock e folded least start false { b with first := some s.char } rest
      else takeBlock e folded least start true { b with text := s.char :: b.text } rest
    else
      let inMargin := b.margin = 0 || s.place.column < b.margin
      let widest := max b.widest s.place.column
      if inMargin && s.char == ' ' then takeBlock e folded least start false b rest
      else if inMargin && s.char == '\t' then
        .error (.ofToken .tabInBlock start.line s.place.line)
      else if isBreak s.char then
        takeBlock e folded least start false
          { b with more := s.char :: b.more, widest := widest } rest
      else
        let margin := if b.margin = 0 then max widest least else b.margin
        if s.place.column = margin then
          takeBlock e folded least start true
            ({ b with margin := margin }.startLine folded s.char) rest
        else .ok (b, s :: rest)

/-- Reads a block scalar that began at `start`, after its mark.  `outer` is the column of what is
around it, if there is anything. -/
def takeBlockText (e : Ending) (folded : Bool) (outer : Option Nat) (start : Place)
    (spots : List Spot) : Except Fault (List Char × List Spot) := do
  let fault (problem : Problem) : Fault := .ofToken problem start.line start.line
  let (header, rest) ← (takeBlockHeader spots).mapError fault
  let rest ← (afterLine rest).mapError fault
  e.need 1 rest
  let margin := if header.indent = 0 then 0 else outer.getD 0 + header.indent
  let least := max 1 ((outer.map (· + 1)).getD 0)
  let (lines, rest) ← takeBlock e folded least start false ⟨[], margin, 0, none, [], false⟩ rest
  return (lines.result header.chomping, rest)

end Yaml

end Stepwise
