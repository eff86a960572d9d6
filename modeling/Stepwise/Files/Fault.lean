import Stepwise.Text.Glyph

/-!
# File faults

What can go wrong with a file or a folder: the attempted action, the path as it was given, and the
reason.
-/

namespace Stepwise

/-- Why a file or folder could not be used. -/
inductive FileReason where
  | missing
  | notFolder
  | isFolder
  | nameTooLong
  | badName
deriving DecidableEq

/-- The wording of a reason. -/
def FileReason.message : FileReason → String
  | missing => "no such file or directory"
  | notFolder => "not a directory"
  | isFolder => "is a directory"
  | nameTooLong => "file name too long"
  | badName => "invalid argument"

/-- What was attempted. -/
inductive FileAction where
  | openFile
  | readFile
  | makeFolder
deriving DecidableEq

/-- The word for an attempt. -/
def FileAction.word : FileAction → String
  | openFile => "open"
  | readFile => "read"
  | makeFolder => "mkdir"

/-- A failed attempt on a path. -/
structure FileFault where
  action : FileAction
  path : Text
  reason : FileReason
deriving DecidableEq

/-- The wording of a failed attempt. -/
def FileFault.message (f : FileFault) : Text :=
  Text.ofString (f.action.word ++ " ") ++ f.path ++ Text.ofString (": " ++ f.reason.message)

end Stepwise
