import Stepwise.Files.Fault
import Stepwise.Files.Path
import Stepwise.Text.Octets

/-!
# File trees

The files and folders that a program sees from its working folder.  A place in the tree is the list
of parts that leads to it; leading `..` parts lead out of the working folder and a leading `/` to
the root, and these places always are folders.

Reading follows a path part by part, so every part on the way must be an existing folder.  Writing a
file replaces what it held, and a folder is made only in a folder that is there.  There are no
links: a part leads to the file or folder of that name and nowhere else.
-/

namespace Stepwise

/-- What stands at a place in a file tree. -/
inductive FileNode where
  | folder
  | file (content : Text)
deriving DecidableEq

/-- A place in a file tree. -/
abbrev Place := List Text

/-- The longest part of a path, in octets. -/
def maxNameLength : Nat := 255

/-- The longest path, in octets. -/
def maxPathLength : Nat := 4095

/-- Files and folders with their places. -/
structure FileTree where
  nodes : List (Place × FileNode)

namespace FileTree

/-- The tree that holds nothing. -/
def empty : FileTree := ⟨[]⟩

/-- The part that leads to the root. -/
def root : Text := [Path.slash]

/-- Whether the place is the working folder, a folder around it, or the root. -/
def isOuter (place : Place) : Bool := place = [root] || place.all (· = Path.up)

/-- What stands at a place. -/
def get? (tree : FileTree) (place : Place) : Option FileNode :=
  if isOuter place then some .folder else tree.nodes.lookup place

/-- Puts a node at a place. -/
def put (tree : FileTree) (place : Place) (node : FileNode) : FileTree :=
  ⟨(place, node) :: tree.nodes.filter (·.1 ≠ place)⟩

/-- The place that `part` leads to from the folder `here`. -/
def enter (here : Place) (part : Text) : Place :=
  if part = [] ∨ part = Path.here then here
  else if part = Path.up then
    if here = [root] then here
    else if here.all (· = Path.up) then here ++ [Path.up]
    else here.dropLast
  else here ++ [part]

/-- Follows the parts of a path from a place. -/
def walk (tree : FileTree) (here : Place) : List Text → Except FileReason Place
  | [] => .ok here
  | part :: rest =>
    match tree.get? here with
    | none => .error .missing
    | some (.file _) => .error .notFolder
    | some .folder =>
      if part.octets.length > maxNameLength then .error .nameTooLong
      else tree.walk (enter here part) rest

/-- Where a path starts. -/
def origin (path : Text) : Place := if Path.isRooted path then [root] else []

/-- The place that a path leads to, whether or not anything stands there. -/
def resolve (tree : FileTree) (path : Text) : Except FileReason Place :=
  if path = [] then .error .missing
  else if path.contains (.char '\x00') then .error .badName
  else if path.octets.length > maxPathLength then .error .nameTooLong
  else tree.walk (origin path) (Path.parts path)

/-- The content of the file that a path leads to. -/
def fetch (tree : FileTree) (path : Text) : Except FileFault Text :=
  match tree.resolve path with
  | .error reason => .error ⟨.openFile, path, reason⟩
  | .ok place =>
    match tree.get? place with
    | none => .error ⟨.openFile, path, .missing⟩
    | some .folder => .error ⟨.readFile, path, .isFolder⟩
    | some (.file content) => .ok content

/-- The content of the file that a well-formed path leads to. -/
def read (tree : FileTree) (path : String) : Except FileFault Text :=
  tree.fetch (Text.ofString path)

/-- Gives the file that a path leads to a new content, and makes the file if there is none. -/
def write (tree : FileTree) (path : Text) (content : Text) : Except FileFault FileTree :=
  match tree.resolve path with
  | .error reason => .error ⟨.openFile, path, reason⟩
  | .ok place =>
    match tree.get? place with
    | some .folder => .error ⟨.openFile, path, .isFolder⟩
    | _ => .ok (tree.put place (.file content))

/-- Makes the folder that a path leads to, unless it is there.  The folder around it must be
there. -/
def makeFolder (tree : FileTree) (path : Text) : Except FileFault FileTree :=
  match tree.resolve path with
  | .error reason => .error ⟨.makeFolder, path, reason⟩
  | .ok place =>
    match tree.get? place with
    | some .folder => .ok tree
    | some (.file _) => .error ⟨.makeFolder, path, .notFolder⟩
    | none => .ok (tree.put place .folder)

/-- The place that the parts of a clean path lead to. -/
def placeOf (rooted : Bool) (parts : List Text) : Place :=
  if rooted then root :: parts else parts

/-- The tree with a file at a path and folders on the way to it. -/
def withFile (tree : FileTree) (path : String) (content : Text) : FileTree :=
  let place := Path.cleanParts (Text.ofString path)
  let around := (Path.wayFrom false [] place.dropLast).foldl
    (fun tree folder => (tree.makeFolder folder).toOption.getD tree) tree
  around.put place (.file content)

/-- The files below the working folder with their paths, sorted by path. -/
def files (tree : FileTree) : List (String × Text) :=
  let all := tree.nodes.filterMap fun (place, node) =>
    match node with
    | .file content =>
      if place.head? = some Path.up ∨ place.head? = some root then none
      else some (Text.shown (Path.ofParts false place), content)
    | .folder => none
  all.mergeSort fun a b => a.1 ≤ b.1

end FileTree

end Stepwise
