import Stepwise.Text.Glyph

/-!
# Paths

A path is a list of parts between slashes.  Nothing promises that it is well-formed text, so paths
are decoded text like file contents.  `Path.clean` shortens a path by its text alone: empty parts
and `.` go, and `..` takes the part before it along.  `Path.join` puts paths together and cleans the
result.
-/

namespace Stepwise

namespace Path

/-- What stands between the parts of a path. -/
def slash : Glyph := .char '/'

/-- The part `.`, which leads nowhere else. -/
def here : Text := [.char '.']

/-- The part `..`, which leads out of a folder. -/
def up : Text := [.char '.', .char '.']

/-- The parts of a path between its slashes. -/
def parts (path : Text) : List Text := path.splitOn slash

/-- Whether a path starts at the root. -/
def isRooted (path : Text) : Bool := path.head? = some slash

/-- Adds a part to the cleaned parts before it, which are given last first. -/
def addPart (rooted : Bool) (before : List Text) (part : Text) : List Text :=
  if part = [] ∨ part = here then before
  else if part = up then
    match before with
    | [] => if rooted then [] else [up]
    | last :: earlier => if last = up then up :: before else earlier
  else part :: before

/-- The parts of the shortest path with the same meaning. -/
def cleanParts (path : Text) : List Text :=
  ((parts path).foldl (addPart (isRooted path)) []).reverse

/-- The path with the given parts. -/
def ofParts (rooted : Bool) (parts : List Text) : Text :=
  (if rooted then [slash] else []) ++ [slash].intercalate parts

/-- The paths that lead one part after another along the given parts, after the parts `done`. -/
def wayFrom (rooted : Bool) (done : List Text) : List Text → List Text
  | [] => []
  | part :: rest => ofParts rooted (done ++ [part]) :: wayFrom rooted (done ++ [part]) rest

/-- The paths of the folders that lead to a clean path, outermost first, and of the one that it
leads to.  The empty path is on its own. -/
def way (path : Text) : List Text :=
  if path = [] then [path] else wayFrom (isRooted path) [] (cleanParts path)

/-- The shortest path with the same meaning, by its text alone. -/
def clean (path : Text) : Text :=
  let parts := cleanParts path
  if parts = [] ∧ !isRooted path then here else ofParts (isRooted path) parts

/-- `base` followed by `path`, cleaned.  An empty one counts for nothing. -/
def join (base path : Text) : Text :=
  if base = [] then (if path = [] then [] else clean path)
  else if path = [] then clean base
  else clean (base ++ slash :: path)

end Path

end Stepwise
