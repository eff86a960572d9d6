import Stepwise.Yaml.Label
import Stepwise.Yaml.Layout
import Stepwise.Yaml.Plain
import Stepwise.Yaml.Quotation

/-!
# Reading tokens

`tokens` reads all tokens of a document.  Each step passes over white space and comments, closes
what the column of the next character closes, and reads one token there.  White space outside braces
and brackets must not hold tabs where a key may start.
-/

namespace Stepwise

namespace Yaml

/-! ## White space and comments -/

/-- What white space is passed in. -/
inductive GapMode where
  | between
  /-- Inside a comment. -/
  | comment
  /-- Before another comment, with nothing but white space since the last one. -/
  | beforeComment

/-- Whether nothing but white space and line feeds stands before a comment. -/
def leadsToComment (spots : List Spot) : Bool :=
  startsWith (· == '#') (spots.dropWhile fun s => isWhite s.char || s.char == '\n')

/-- What follows white space and comments, and whether a key may start there.  Outside braces and
brackets it may after a line break. -/
def skipGaps (e : Ending) (inFlow : Bool) (mode : GapMode) (allowed : Bool) :
    List Spot → Except Fault (Bool × List Spot)
  | [] => do
    e.need 1 []
    return (allowed, [])
  | s :: rest =>
    match mode with
    | .comment =>
      if !isBreak s.char then skipGaps e inFlow .comment allowed rest
      else if leadsToComment (s :: rest) then skipGaps e inFlow .beforeComment allowed rest
      else skipGaps e inFlow .between (allowed || !inFlow) rest
    | .beforeComment =>
      skipGaps e inFlow (if s.char = '#' then .comment else .beforeComment) allowed rest
    | .between =>
      if s.char = ' ' ∨ (s.char = '\t' ∧ (inFlow ∨ !allowed)) then
        skipGaps e inFlow .between allowed rest
      else if s.place.index = 0 ∧ s.char = '\uFEFF' then skipGaps e inFlow .between allowed rest
      else if s.char = '#' then skipGaps e inFlow .comment allowed rest
      else if isBreak s.char then skipGaps e inFlow .between (allowed || !inFlow) rest
      else .ok (allowed, s :: rest)

/-- What follows a comment on the rest of a line, if there is one. -/
def skipLineComment (e : Ending) (spots : List Spot) : Except Fault (List Spot) :=
  if startsWith (· == '#') (afterWhite spots) then do
    let rest := spots.dropWhile (!isBreak ·.char)
    e.need 1 rest
    return rest
  else return spots

/-! ## Single tokens -/

namespace Layout

/-- Reads a mark of one character. -/
def takeMark (l : Layout) (e : Ending) (kind : TokenKind) : Layout :=
  (l.push kind l.place).moveTo e (l.rest.drop 1)

/-- Reads an opening brace or bracket. -/
def takeOpening (l : Layout) (e : Ending) (kind : TokenKind) : Except Fault Layout := do
  let l ← l.saveCandidate
  let l ← l.enterFlow
  return { l with keyAllowed := true }.takeMark e kind

/-- Reads a closing brace or bracket. -/
def takeClosing (l : Layout) (e : Ending) (kind : TokenKind) : Except Fault Layout := do
  let l ← l.dropCandidate
  return { l.leaveFlow with keyAllowed := false }.takeMark e kind

/-- Reads a comma. -/
def takeComma (l : Layout) (e : Ending) : Except Fault Layout := do
  let l ← l.dropCandidate
  return { l with keyAllowed := true }.takeMark e .comma

/-- Reads the mark of an item of a sequence. -/
def takeDash (l : Layout) (e : Ending) : Except Fault Layout := do
  if !l.inFlow && !l.keyAllowed then throw (.ofToken .strayDash l.place.line l.place.line)
  let l ← l.indent l.place.column l.nextNumber .startSeq l.place
  let l ← l.dropCandidate
  return { l with keyAllowed := true }.takeMark e .dash

/-- Reads the mark of a key. -/
def takeKey (l : Layout) (e : Ending) : Except Fault Layout := do
  if !l.inFlow && !l.keyAllowed then throw (.ofToken .strayKey l.place.line l.place.line)
  let l ← l.indent l.place.column l.nextNumber .startMap l.place
  let l ← l.dropCandidate
  return { l with keyAllowed := !l.inFlow }.takeMark e .key

/-- Reads the mark of a value, and turns the candidate into a key if it can be one. -/
def takeColon (l : Layout) (e : Ending) : Except Fault Layout := do
  let c := l.candidate
  match c.outlook l.place with
  | .missed fault => throw fault
  | .undecided =>
    let l := l.insert c.number .key c.place
    let l ← l.indent c.place.column c.number .startMap c.place
    let l := (l.setCandidate { c with possible := false }).unwatch c.number
    return { l with keyAllowed := false }.takeMark e .colon
  | .settled =>
    if !l.inFlow && !l.keyAllowed then throw (.ofToken .strayColon l.place.line l.place.line)
    let l := l.setCandidate { c with possible := false }
    let l ← l.indent l.place.column l.nextNumber .startMap l.place
    return { l with keyAllowed := !l.inFlow }.takeMark e .colon

/-- Reads a token that may be a key and that no key may follow closely.  `take` reads it from what
follows its mark. -/
def takeLabel (l : Layout) (e : Ending)
    (take : List Spot → Except Problem (TokenKind × List Spot)) : Except Fault Layout := do
  let l ← l.saveCandidate
  match take l.rest with
  | .error problem => throw (.ofToken problem l.place.line l.place.line)
  | .ok (kind, rest) =>
    e.need 1 rest
    return ({ l with keyAllowed := false }.push kind l.place).moveTo e rest

/-- Reads a quoted scalar. -/
def takeQuotedScalar (l : Layout) (e : Ending) (quote : Quote) : Except Fault Layout := do
  let l ← l.saveCandidate
  let (text, rest) ← takeQuoted e quote l.place .empty [] (l.rest.drop 1)
  let kind := TokenKind.scalar false (String.ofList text)
  return ({ l with keyAllowed := false }.push kind l.place).moveTo e rest

/-- Reads a block scalar. -/
def takeBlockScalar (l : Layout) (e : Ending) (folded : Bool) : Except Fault Layout := do
  let l ← l.dropCandidate
  let (text, rest) ← takeBlockText e folded l.column? l.place (l.rest.drop 1)
  let kind := TokenKind.scalar false (String.ofList text)
  return ({ l with keyAllowed := true }.push kind l.place).moveTo e rest

/-- Reads a plain scalar.  The last part of the result says whether lines have ended behind it. -/
def takePlainScalar (l : Layout) (e : Ending) : Except Fault (Layout × Bool) := do
  let l ← l.saveCandidate
  let margin := (l.column?.map (· + 1)).getD 0
  let run ← takePlain e l.inFlow margin l.place .empty [] l.rest
  let kind := TokenKind.scalar true (String.ofList run.text)
  return (({ l with keyAllowed := run.lineEnded }.push kind l.place).moveTo e run.rest,
    run.lineEnded)

/-- Reads a directive. -/
def takeDirectiveLine (l : Layout) (e : Ending) : Except Fault Layout := do
  let l ← (l.dedent none).dropCandidate
  match takeDirective (l.rest.drop 1) with
  | .error problem => throw (.ofToken problem l.place.line l.place.line)
  | .ok (kind, rest) =>
    e.need 1 rest
    return ({ l with keyAllowed := false }.push kind l.place).moveTo e rest

/-- Reads a document mark. -/
def takeDocumentMark (l : Layout) (e : Ending) (kind : TokenKind) : Except Fault Layout := do
  let l ← (l.dedent none).dropCandidate
  return ({ l with keyAllowed := false }.push kind l.place).moveTo e (l.rest.drop 3)

/-- Reads the end of the document.  Nothing can follow it, so it is put into the queue often enough
to let every token out. -/
def takeFinish (l : Layout) (e : Ending) : Except Fault Layout := do
  let place : Place := ⟨l.place.index, e.lastLine, 0⟩
  let l ← ({ l with place := place }.dedent none).dropCandidate
  return { l with keyAllowed := false, queue := l.queue ++ List.replicate 3 ⟨.finish, place⟩ }

/-! ## The next token -/

/-- The characters that no plain scalar starts with. -/
def isMark (c : Char) : Bool := "-?:,[]\x7b\x7d#&*!|>\x27\"%@\x60".toList.contains c

/-- Whether a plain scalar starts with the character `c`, which `rest` follows. -/
def startsPlain (l : Layout) (c : Char) (rest : List Spot) : Bool :=
  (!isMark c && !isWhite c) || c == '-' || (!l.inFlow && (c == '?' || c == ':') && !atGap rest)

/-- Reads the token that the character `c` starts, which `rest` follows.  The last part of the
result says whether a comment may follow on the same line. -/
def takeToken (l : Layout) (e : Ending) (c : Char) (rest : List Spot) :
    Except Fault (Layout × Bool) := do
  if c = '[' then return (← l.takeOpening e .openSeq, true)
  else if c = '\x7b' then return (← l.takeOpening e .openMap, true)
  else if c = ']' then return (← l.takeClosing e .closeSeq, true)
  else if c = '\x7d' then return (← l.takeClosing e .closeMap, true)
  else if c = ',' then return (← l.takeComma e, true)
  else if c = '-' ∧ atGap rest then return (← l.takeDash e, false)
  else if c = '?' ∧ (l.inFlow || atGap rest) then return (← l.takeKey e, true)
  else if c = ':' ∧ (l.inFlow || atGap rest) then return (← l.takeColon e, true)
  else if c = '*' then
    let take spots := (takeAnchor (spots.drop 1)).map fun (name, rest) => (.reference name, rest)
    return (← l.takeLabel e take, true)
  else if c = '&' then
    let take spots := (takeAnchor (spots.drop 1)).map fun (name, rest) => (.anchor name, rest)
    return (← l.takeLabel e take, true)
  else if c = '!' then
    let take spots := (takeTag spots).map fun (handle, suffix, rest) => (.tag handle suffix, rest)
    return (← l.takeLabel e take, true)
  else if c = '|' ∧ !l.inFlow then return (← l.takeBlockScalar e false, false)
  else if c = '>' ∧ !l.inFlow then return (← l.takeBlockScalar e true, false)
  else if c = '\x27' then return (← l.takeQuotedScalar e .single, true)
  else if c = '"' then return (← l.takeQuotedScalar e .double, true)
  else if l.startsPlain c rest then
    let (l, lineEnded) ← l.takePlainScalar e
    return (l, !lineEnded)
  else throw (.ofToken .noToken l.place.line l.place.line)

/-- Reads the next token.  The result says whether the document has ended. -/
def step (l : Layout) (e : Ending) : Except Fault (Layout × Bool) := do
  let (allowed, rest) ← skipGaps e l.inFlow .between l.keyAllowed l.rest
  let l := { l with keyAllowed := allowed }.moveTo e rest
  let l := l.dedent (some l.place.column)
  e.need 4 rest
  match rest with
  | [] => return (← l.takeFinish e, true)
  | s :: after =>
    if s.place.column = 0 ∧ s.char = '%' then return (← l.takeDirectiveLine e, false)
    else if isDocumentMark rest then
      let kind := if s.char = '-' then TokenKind.documentStart else .documentEnd
      return (← l.takeDocumentMark e kind, false)
    else
      let (l, commentAllowed) ← l.takeToken e s.char after
      if commentAllowed then return (l.moveTo e (← skipLineComment e l.rest), false)
      else return (l, false)

end Layout

/-! ## All tokens -/

/-- The token that tells a fault. -/
def brokenToken (fault : Fault) : Token := ⟨.broken fault, .origin⟩

/-- Reads the tokens after a layout.  Every step but the last takes a character, so `count` bounds
the steps if it is more than the number of characters. -/
def tokensFrom (e : Ending) : (count : Nat) → Layout → List Token
  | 0, _ => []
  | count + 1, l =>
    match l.step e with
    | .error fault => [brokenToken fault]
    | .ok (l, ended) =>
      let (tokens, result) := l.release l.queue
      match result with
      | .error fault => tokens ++ [brokenToken fault]
      | .ok l => tokens ++ (if ended then l.queue else tokensFrom e count l)

/-- The tokens of a source. -/
def tokens (source : Source) : List Token :=
  tokensFrom (.ofSource source) (source.chars.length + 1)
    (.initial (spotsFrom .origin source.chars))

end Yaml

end Stepwise
