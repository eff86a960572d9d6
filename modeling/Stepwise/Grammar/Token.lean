import Stepwise.Text.Letter
import Stepwise.Text.Quoted

/-!
# Tokens

The tokens of the textual form of terms.  The two spellings of a lambda are one token, and the
words `let` and `in` are tokens of their own.  Kinds have fixed code numbers and names; the name of
a kind is what messages show.
-/

namespace Stepwise

/-- The kinds of token, and the end of the input. -/
inductive TokenKind where
  | endOfInput
  | illegal
  | identifier
  | lambda
  | dot
  | equals
  | semicolon
  | leftParen
  | rightParen
  | letWord
  | inWord
deriving DecidableEq

namespace TokenKind

/-- All kinds in the order of their code numbers. -/
def all : List TokenKind :=
  [endOfInput, illegal, identifier, lambda, dot, equals, semicolon, leftParen, rightParen,
   letWord, inWord]

/-- The name that messages show. -/
def name : TokenKind → String
  | endOfInput => "end of input"
  | illegal => "illegal character"
  | identifier => "identifier"
  | lambda => "'λ'"
  | dot => "'.'"
  | equals => "'='"
  | semicolon => "';'"
  | leftParen => "'('"
  | rightParen => "')'"
  | letWord => "'let'"
  | inWord => "'in'"

/-- The kind with the given code number. -/
def ofCode? : Int → Option TokenKind
  | .ofNat n => all[n]?
  | .negSucc _ => none

/-- The name shown for a code number, whether or not a kind has it. -/
def nameOfCode (code : Int) : String :=
  match ofCode? code with
  | some kind => kind.name
  | none => "unknown token"

end TokenKind

/-- A token. -/
inductive Token where
  /-- A character that belongs to no token. -/
  | illegal (c : Char)
  /-- An identifier. -/
  | ident (name : String)
  | lambda
  | dot
  | equals
  | semicolon
  | leftParen
  | rightParen
  | letWord
  | inWord
deriving DecidableEq

namespace Token

/-- The kind of a token. -/
def kind : Token → TokenKind
  | illegal _ => .illegal
  | ident _ => .identifier
  | lambda => .lambda
  | dot => .dot
  | equals => .equals
  | semicolon => .semicolon
  | leftParen => .leftParen
  | rightParen => .rightParen
  | letWord => .letWord
  | inWord => .inWord

/-- The token that a whole run of identifier characters spells. -/
def ofWord (word : List Char) : Token :=
  if word = ['l', 'e', 't'] then letWord
  else if word = ['i', 'n'] then inWord
  else ident (String.ofList word)

/-- The token that a single other character spells. -/
def ofMark : Char → Token
  | 'λ' | '\\' => lambda
  | '.' => dot
  | '=' => equals
  | ';' => semicolon
  | '(' => leftParen
  | ')' => rightParen
  | c => illegal c

/-- Whether a unit can begin with the token. -/
def startsUnit : Token → Bool
  | ident _ | leftParen | lambda => true
  | _ => false

end Token

/-- The characters of identifiers: letters other than `λ`, decimal digits, the underscore and the
apostrophe. -/
def isIdentChar (c : Char) : Bool :=
  c == '_' || c == '\x27' || (c != 'λ' && (isLetter c || isDecimalDigit c))

end Stepwise
