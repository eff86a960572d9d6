import Stepwise.Yaml.BlockText
import Stepwise.Yaml.Token

/-!
# Anchors, tags and directives

An anchor gives a node a name, a tag says what a node is, and a directive tells the version of the
language or what the handles of tags stand for.  All of them stand on one line, so every fault in
one is noticed on the line on which it began.
-/

namespace Stepwise

namespace Yaml

/-- The characters of names. -/
def isWordChar (c : Char) : Bool := c.isAlphanum || c == '_' || c == '-'

/-- The word at the front, and what follows it. -/
def takeWord (spots : List Spot) : String × List Spot :=
  (String.ofList ((spots.takeWhile (isWordChar ·.char)).map Spot.char),
    spots.dropWhile (isWordChar ·.char))

/-! ## Anchors -/

/-- The characters that may follow the name of an anchor closely. -/
def endsAnchor (c : Char) : Bool := "?:,]\x7d%@\x60".toList.contains c

/-- The name of an anchor or an alias, after its mark. -/
def takeAnchor (spots : List Spot) : Except Problem (String × List Spot) :=
  let (name, rest) := takeWord spots
  if name ≠ "" ∧ (atGap rest || startsWith endsAnchor rest) then .ok (name, rest)
  else .error .badAnchor

/-! ## Tags -/

/-- The characters that stand for themselves in the text of a tag. -/
def isTagChar (c : Char) : Bool := isWordChar c || ";/?:@&=+$,.!~*\x27()[]".toList.contains c

/-- The octet that a percent sign with the two digits stands for. -/
def escapedOctet? (a b : Spot) : Option Nat := digitsValue? 16 0 [a.char, b.char]

/-- The octets of the text of a tag at the front, and what follows it.  A percent sign and two
digits stand for an octet; `missing` such octets must follow to complete a character. -/
def takeTagOctets (missing : Nat) : List Spot → Except Problem (List Nat × List Spot)
  | [] => if missing = 0 then .ok ([], []) else .error .badTagEscape
  | s :: rest =>
    if s.char = '%' then
      match rest with
      | a :: b :: after =>
        match escapedOctet? a b with
        | none => .error .badTagEscape
        | some octet =>
          if missing = 0 then
            if sequenceWidth octet = 0 then .error .badTagLeading
            else do
              let (octets, rest) ← takeTagOctets (sequenceWidth octet - 1) after
              return (octet :: octets, rest)
          else if isTrailing octet then do
            let (octets, rest) ← takeTagOctets (missing - 1) after
            return (octet :: octets, rest)
          else .error .badTagTrailing
      | _ => .error .badTagEscape
    else if missing ≠ 0 then .error .badTagEscape
    else if isTagChar s.char then do
      let (octets, rest) ← takeTagOctets 0 rest
      return (s.char.toNat :: octets, rest)
    else .ok ([], s :: rest)

/-- The text of a tag at the front, and what follows it. -/
def takeTagText (spots : List Spot) : Except Problem (Text × List Spot) := do
  let (octets, rest) ← takeTagOctets 0 spots
  return (Text.ofBytes (octets.map UInt8.ofNat), rest)

/-- The text of a tag at the front, which must not be empty, and what follows it. -/
def takeSomeTagText (spots : List Spot) : Except Problem (Text × List Spot) := do
  let (text, rest) ← takeTagText spots
  if text.isEmpty then throw .noTagText
  return (text, rest)

/-- The handle of a tag: an exclamation mark, or a word between two.  The last part of the result
says whether the second one is there. -/
def takeHandle (spots : List Spot) : Except Problem (String × List Spot × Bool) :=
  match spots with
  | [] => .error .noTagMark
  | s :: rest =>
    if s.char = '!' then
      let (word, rest) := takeWord rest
      match rest with
      | t :: after =>
        if t.char = '!' then .ok ("!" ++ word ++ "!", after, true)
        else .ok ("!" ++ word, t :: after, false)
      | [] => .ok ("!" ++ word, [], false)
    else .error .noTagMark

/-- A tag at the front, as its handle and its suffix. -/
def takeHandledTag (spots : List Spot) : Except Problem (String × Text × List Spot) := do
  let (handle, rest, closed) ← takeHandle spots
  if closed then
    let (suffix, rest) ← takeSomeTagText rest
    return (handle, suffix, rest)
  else
    let (text, rest) ← takeTagText rest
    let suffix := (Text.ofString handle).drop 1 ++ text
    if suffix.isEmpty then return ("", Text.ofString "!", rest) else return ("!", suffix, rest)

/-- A tag between angle brackets, after the exclamation mark and the first of them. -/
def takeVerbatimTag (spots : List Spot) : Except Problem (String × Text × List Spot) := do
  let (text, rest) ← takeSomeTagText spots
  match rest with
  | s :: after => if s.char = '>' then return ("", text, after) else throw .noTagBracket
  | [] => throw .noTagBracket

/-- A tag at the front, as its handle and its suffix, and what follows it. -/
def takeTag (spots : List Spot) : Except Problem (String × Text × List Spot) := do
  let (handle, suffix, rest) ←
    match spots with
    | _ :: s :: after => if s.char = '<' then takeVerbatimTag after else takeHandledTag spots
    | _ => takeHandledTag spots
  if atGap rest then return (handle, suffix, rest) else throw .noTagEnd

/-! ## Directives -/

/-- What follows the white space at the front. -/
def afterWhite (spots : List Spot) : List Spot := spots.dropWhile fun s => isWhite s.char

/-- A number of one or two digits at the front, and what follows it. -/
def takeVersionNumber (spots : List Spot) : Except Problem (Nat × List Spot) :=
  let digits := (spots.takeWhile (·.char.isDigit)).map Spot.char
  if digits.isEmpty then .error .noVersion
  else if digits.length > 2 then .error .longVersion
  else .ok ((digitsValue? 10 0 digits).getD 0, spots.dropWhile (·.char.isDigit))

/-- The version of the language, after the name of its directive. -/
def takeVersion (spots : List Spot) : Except Problem (TokenKind × List Spot) := do
  let (major, rest) ← takeVersionNumber (afterWhite spots)
  match rest with
  | s :: after =>
    if s.char = '.' then
      let (minor, rest) ← takeVersionNumber after
      return (.version major minor, rest)
    else throw .noVersionPoint
  | [] => throw .noVersionPoint

/-- A handle and what it stands for, after the name of the directive. -/
def takeHandleMeaning (spots : List Spot) : Except Problem (TokenKind × List Spot) := do
  let (handle, rest, closed) ← takeHandle (afterWhite spots)
  if !closed && handle ≠ "!" then throw .noTagMark
  if !startsWith isWhite rest then throw .noTagBlank
  let (stem, rest) ← takeSomeTagText (afterWhite rest)
  if atGap rest then return (.handle handle stem, rest) else throw .noTagEnd

/-- A directive after its percent sign, and what follows its line. -/
def takeDirective (spots : List Spot) : Except Problem (TokenKind × List Spot) := do
  let (name, rest) := takeWord spots
  if name = "" then throw .noDirectiveName
  if !atGap rest then throw .badDirectiveName
  let (kind, rest) ←
    if name = "YAML" then takeVersion rest
    else if name = "TAG" then takeHandleMeaning rest
    else throw .unknownDirective
  return (kind, ← afterLine rest)

end Yaml

end Stepwise
