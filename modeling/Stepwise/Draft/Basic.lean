import Stepwise.Grammar.SyntaxError
import Stepwise.Term.Basic

/-!
# Unfinished terms

A draft is a term in which parts may still be missing.  Every term is a draft (`Draft.ofTerm`).
An operation on drafts fails exactly where it has to look at a part that is missing; where it does
not look, the hole stays.  `Draft.Fault` lists all the ways in which a request about drafts can
fail, and `Draft.Fault.message` holds their wording.

A draft is also listed in preorder, one string for each node, which is how drafts are exchanged.
-/

namespace Stepwise

/-- A term in which parts may be missing. -/
inductive Draft where
  /-- A missing part. -/
  | hole
  | var (name : String)
  | abs (name : String) (body : Draft)
  | app (left right : Draft)
deriving DecidableEq, Inhabited

namespace Draft

/-- A finished term as a draft. -/
def ofTerm : Term → Draft
  | .var name => var name
  | .abs name body => abs name (ofTerm body)
  | .app left right => app (ofTerm left) (ofTerm right)

/-- The characters of the printed form, with `rest` after them; a missing part has a mark of its
own. -/
def charsBefore : Draft → List Char → List Char
  | hole, rest => "%!s(<nil>)".toList ++ rest
  | var name, rest => name.toList ++ rest
  | abs name body, rest => 'λ' :: (name.toList ++ '.' :: body.charsBefore rest)
  | app left right, rest => '(' :: left.charsBefore (' ' :: right.charsBefore (')' :: rest))

/-- The characters of the printed form. -/
def chars (d : Draft) : List Char := d.charsBefore []

/-- Why a request about drafts has no result. -/
inductive Fault where
  /-- An operation had to look at a missing part. -/
  | gap
  /-- A text was asked of a draft that is missing as a whole. -/
  | blank
  /-- A source is no term. -/
  | malformed (error : SyntaxError)
  /-- A step met the stuck application `(left right)`. -/
  | stuck (left right : Draft)
  /-- No strategy has the name. -/
  | unknownStrategy (name : String)
deriving DecidableEq

/-- The printed form, which a draft that is missing as a whole does not have. -/
def text : Draft → Except Fault String
  | hole => .error .blank
  | d => .ok (String.ofList d.chars)

/-! ## Preorder listings -/

/-- The nodes in preorder, with `rest` after them. -/
def preorderBefore : Draft → List String → List String
  | hole, rest => "?" :: rest
  | var name, rest => ("$" ++ name) :: rest
  | abs name body, rest => ("\\" ++ name) :: body.preorderBefore rest
  | app left right, rest => "@" :: left.preorderBefore (right.preorderBefore rest)

/-- The nodes in preorder: `$x` is a variable, `\x` a binder, `@` an application and `?` a missing
part. -/
def preorder (d : Draft) : List String := d.preorderBefore []

/-- Puts one node of a listing on top of the drafts that the nodes after it list. -/
def addNode (node : String) (after : List Draft) : Option (List Draft) :=
  match node.toList, after with
  | '$' :: name, after => some (var (String.ofList name) :: after)
  | '\\' :: name, body :: after => some (abs (String.ofList name) body :: after)
  | ['@'], left :: right :: after => some (app left right :: after)
  | ['?'], after => some (hole :: after)
  | _, _ => none

/-- The draft with the given preorder listing. -/
def ofPreorder? (nodes : List String) : Option Draft :=
  match nodes.foldr (fun node after => after.bind (addNode node)) (some []) with
  | some [d] => some d
  | _ => none

end Draft

end Stepwise
