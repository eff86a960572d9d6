import Stepwise.Grammar.Token

/-!
# Syntax errors

A source that is no term is refused at a token, or at its end: either nothing could start or go on
with that token, or one particular kind of token was required in its place.
-/

namespace Stepwise

/-- Why a source is refused.  `none` in the place of a token is the end of the input. -/
inductive Problem where
  /-- Nothing can go on with what was found. -/
  | unexpected (found : Option Token)
  /-- A token of the kind `wanted` was required. -/
  | expected (wanted : TokenKind) (found : Option Token)
deriving DecidableEq

/-- The kind of what was found. -/
def kindFound : Option Token → TokenKind
  | some token => token.kind
  | none => .endOfInput

/-- How a message refers to what was found. -/
def describeFound : Option Token → String
  | some (.illegal c) => quoted (String.singleton c)
  | some (.ident name) => "identifier " ++ quoted name
  | found => (kindFound found).name

/-- The wording of a problem. -/
def Problem.message : Problem → String
  | unexpected (some (.illegal c)) => "unexpected character " ++ quoted (String.singleton c)
  | unexpected found => "unexpected " ++ (kindFound found).name
  | expected wanted found => "expected " ++ wanted.name ++ ", found " ++ describeFound found

/-- The refusal of a source: the number of characters before the offending token, and why. -/
structure SyntaxError where
  pos : Nat
  problem : Problem
deriving DecidableEq

/-- The wording of a refusal. -/
def SyntaxError.message (e : SyntaxError) : String :=
  "syntax error at " ++ toString e.pos ++ ": " ++ e.problem.message

end Stepwise
