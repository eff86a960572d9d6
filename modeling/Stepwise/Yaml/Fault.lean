import Stepwise.Yaml.Scalar

/-!
# Malformed documents

Where and why a document cannot be read.  A fault names a line: the one on which the unfinished
construct began, or the one on which the fault was noticed if the construct began on the first line.
A fault that concerns the first line only names none, nor does one in the characters themselves or
in what the nodes mean.
-/

namespace Stepwise

namespace Yaml

/-- Why a document cannot be read. -/
inductive Problem where
  | badLeadingOctet
  | badTrailingOctet
  | incompleteSequence
  | badSequenceLength
  | badCharacter
  | incompleteUnit
  | incompletePair
  | unexpectedLowSurrogate
  | expectedLowSurrogate
  | controlCharacter
  | noToken
  | tabInIndentation
  | tabInBlock
  | noColon
  | strayDash
  | strayKey
  | strayColon
  | unclosedQuote
  | markInQuotes
  | unknownEscape
  | badEscapeDigits
  | badEscapeCode
  | zeroIndentation
  | noLineEnd
  | badAnchor
  | noDirectiveName
  | badDirectiveName
  | unknownDirective
  | noVersion
  | longVersion
  | noVersionPoint
  | noTagMark
  | noTagBlank
  | noTagEnd
  | noTagText
  | noTagBracket
  | badTagEscape
  | badTagLeading
  | badTagTrailing
  | tooDeep
  | noContent
  | noKey
  | noDash
  | openMap
  | openSeq
  | noDocumentStart
  | repeatedVersion
  | badVersion
  | repeatedHandle
  | unknownHandle
  /-- An alias of a name that no node bears. -/
  | unknownAnchor (name : String)
  /-- An alias that brings a node into itself. -/
  | cyclicAnchor (name : String)
  /-- Nearly all of the document comes from aliases. -/
  | tooManyAliases
  /-- A merge key with a value that is no map. -/
  | notMergeable
  | badBinary
  /-- Text that is not what its tag says. -/
  | undecodable (found : Tag) (text : String) (wanted : Tag)
deriving DecidableEq

/-- The wording of a problem. -/
def Problem.message : Problem → String
  | badLeadingOctet => "invalid leading UTF-8 octet"
  | badTrailingOctet => "invalid trailing UTF-8 octet"
  | incompleteSequence => "incomplete UTF-8 octet sequence"
  | badSequenceLength => "invalid length of a UTF-8 sequence"
  | badCharacter => "invalid Unicode character"
  | incompleteUnit => "incomplete UTF-16 character"
  | incompletePair => "incomplete UTF-16 surrogate pair"
  | unexpectedLowSurrogate => "unexpected low surrogate area"
  | expectedLowSurrogate => "expected low surrogate area"
  | controlCharacter => "control characters are not allowed"
  | noToken => "found character that cannot start any token"
  | tabInIndentation => "found a tab character that violates indentation"
  | tabInBlock => "found a tab character where an indentation space is expected"
  | noColon => "could not find expected ':'"
  | strayDash => "block sequence entries are not allowed in this context"
  | strayKey => "mapping keys are not allowed in this context"
  | strayColon => "mapping values are not allowed in this context"
  | unclosedQuote => "found unexpected end of stream"
  | markInQuotes => "found unexpected document indicator"
  | unknownEscape => "found unknown escape character"
  | badEscapeDigits => "did not find expected hexdecimal number"
  | badEscapeCode => "found invalid Unicode character escape code"
  | zeroIndentation => "found an indentation indicator equal to 0"
  | noLineEnd => "did not find expected comment or line break"
  | badAnchor => "did not find expected alphabetic or numeric character"
  | noDirectiveName => "could not find expected directive name"
  | badDirectiveName => "found unexpected non-alphabetical character"
  | unknownDirective => "found unknown directive name"
  | noVersion => "did not find expected version number"
  | longVersion => "found extremely long version number"
  | noVersionPoint => "did not find expected digit or '.' character"
  | noTagMark => "did not find expected '!'"
  | noTagBlank => "did not find expected whitespace"
  | noTagEnd => "did not find expected whitespace or line break"
  | noTagText => "did not find expected tag URI"
  | noTagBracket => "did not find the expected '>'"
  | badTagEscape => "did not find URI escaped octet"
  | badTagLeading => "found an incorrect leading UTF-8 octet"
  | badTagTrailing => "found an incorrect trailing UTF-8 octet"
  | tooDeep => "exceeded max depth of 10000"
  | noContent => "did not find expected node content"
  | noKey => "did not find expected key"
  | noDash => "did not find expected '-' indicator"
  | openMap => "did not find expected ',' or '\x7d'"
  | openSeq => "did not find expected ',' or ']'"
  | noDocumentStart => "did not find expected <document start>"
  | repeatedVersion => "found duplicate %YAML directive"
  | badVersion => "found incompatible YAML document"
  | repeatedHandle => "found duplicate %TAG directive"
  | unknownHandle => "found undefined tag handle"
  | unknownAnchor name => "unknown anchor '" ++ name ++ "' referenced"
  | cyclicAnchor name => "anchor '" ++ name ++ "' value contains itself"
  | tooManyAliases => "document contains excessive aliasing"
  | notMergeable => "map merge requires map or sequence of maps as the value"
  | badBinary => "!!binary value contains invalid base64 data"
  | undecodable found text wanted =>
    "cannot decode " ++ found.name.shown ++ " \x60" ++ text ++ "\x60 as a " ++ wanted.name.shown

/-- A problem with the line that its message names. -/
structure Fault where
  problem : Problem
  line : Option Nat
deriving DecidableEq

namespace Fault

/-- A fault that names no line. -/
def ofProblem (problem : Problem) : Fault := ⟨problem, none⟩

/-- The line to name, counted from zero, when something that began on line `start` is found faulty
on line `noticed`. -/
def lineOf (start noticed : Nat) : Option Nat :=
  if start ≠ 0 then some start else if noticed ≠ 0 then some noticed else none

/-- A fault in a token that began on line `start`, noticed on line `noticed`.  The message counts
lines from one. -/
def ofToken (problem : Problem) (start noticed : Nat) : Fault :=
  ⟨problem, (lineOf start noticed).map (· + 1)⟩

/-- A fault in a construct that began on line `start`, noticed on line `noticed`.  The message
counts lines from zero. -/
def ofConstruct (problem : Problem) (start noticed : Nat) : Fault :=
  ⟨problem, lineOf start noticed⟩

/-- The wording of a fault. -/
def message (f : Fault) : String :=
  match f.line with
  | some line => "yaml: line " ++ toString line ++ ": " ++ f.problem.message
  | none => "yaml: " ++ f.problem.message

end Fault

end Yaml

end Stepwise
