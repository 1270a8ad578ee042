import MigrationAudit.Files.Tree
import MigrationAudit.Text.Pieces

/-!
# File systems

A file system is a file tree with a place in it to start from.  A path leads on from that place, or
from the root if it begins with a slash, and is followed piece by piece: every piece leaves a
directory, even an empty one or a dot, so a path that goes on after a file leads nowhere.
-/

namespace MigrationAudit

open Text

structure FileSystem where
  root : FileTree
  /-- The names that lead from the root to the working directory. -/
  here : List String

namespace FileSystem

/-- Where a piece of a path leads from a directory. -/
def step? (fs : FileSystem) (place : List String) (piece : List Char) : Option (List String) :=
  if ((fs.root.find? place).any FileTree.isDirectory) then
    match piece with
    | [] => some place
    | ['.'] => some place
    | ['.', '.'] => some place.dropLast
    | cs =>
      let next := place ++ [String.ofList cs]
      (fs.root.find? next).map fun _ => next
  else none

/-- Where a path leads; the empty path leads nowhere. -/
def resolve? (fs : FileSystem) (path : String) : Option (List String) :=
  if path = "" then none
  else
    (pieces '/' path.toList).foldlM fs.step? (if path.toList.head? = some '/' then [] else fs.here)

/-- What stands where a path leads. -/
def get? (fs : FileSystem) (path : String) : Option FileTree :=
  (fs.resolve? path).bind fs.root.find?

def holds (fs : FileSystem) (path : String) : Bool := (fs.get? path).isSome

def isDirectory (fs : FileSystem) (path : String) : Bool := (fs.get? path).any (·.isDirectory)

def isFile (fs : FileSystem) (path : String) : Bool := (fs.get? path).any (!·.isDirectory)

/-- The text of a file, if there is such a file and it is a text. -/
def text? (fs : FileSystem) (path : String) : Option String :=
  match fs.get? path with
  | some (.file text?) => text?
  | _ => none

/-- A path may spell a directory with a slash at its end; a name is put after one slash. -/
def join (path name : String) : String :=
  if path = "" ∨ path.toList.getLast? = some '/' then path ++ name else path ++ "/" ++ name

/-- The names of what a directory holds. -/
def names (fs : FileSystem) (path : String) : List String :=
  (((fs.get? path).map (·.entries)).getD []).map (·.1)

/-- Everything in a directory, with the names that lead there from it. -/
def contents (fs : FileSystem) (path : String) : List (List String × FileTree) :=
  ((fs.get? path).map (·.contents)).getD []

end FileSystem

end MigrationAudit
