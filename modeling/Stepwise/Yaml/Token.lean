import Stepwise.Yaml.Spot

/-!
# Tokens of documents

The marks, scalars and labels of a document, each with its place.  What the columns of a document
say is told by tokens too: a sequence or a map that is delimited by columns has a token where it
starts and one where it ends, and every key has a token before it.

The tokens of a document that cannot be read to its end are followed by one that says so, since what
comes before it may be wrong already.
-/

namespace Stepwise

namespace Yaml

/-- What a token is. -/
inductive TokenKind where
  /-- The mark of an item of a sequence. -/
  | dash
  /-- What stands next is a key. -/
  | key
  /-- The mark between a key and its value. -/
  | colon
  | comma
  | openMap
  | closeMap
  | openSeq
  | closeSeq
  /-- A sequence that is delimited by columns starts. -/
  | startSeq
  /-- A map that is delimited by columns starts. -/
  | startMap
  /-- Something that is delimited by columns ends. -/
  | dedent
  /-- A name for the node that follows. -/
  | anchor (name : String)
  /-- The name of a node that stands here once more. -/
  | reference (name : String)
  /-- The tag of the node that follows. -/
  | tag (handle : String) (suffix : Text)
  /-- A scalar, plain or not. -/
  | scalar (plain : Bool) (text : String)
  /-- The version of the language that the document is written in. -/
  | version (major minor : Nat)
  /-- The start of tags that a handle stands for. -/
  | handle (name : String) (stem : Text)
  | documentStart
  | documentEnd
  /-- The characters break off here. -/
  | broken (fault : Fault)
  /-- The end of the document. -/
  | finish
deriving DecidableEq

/-- A token with its place. -/
structure Token where
  kind : TokenKind
  place : Place
deriving DecidableEq

end Yaml

end Stepwise
