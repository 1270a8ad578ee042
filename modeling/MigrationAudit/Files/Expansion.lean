import MigrationAudit.Files.Pattern
import MigrationAudit.Files.System
import MigrationAudit.Path.Basic

/-!
# Expansion of file patterns

A file pattern is followed piece by piece through a file system.  A piece without special signs is
one step to what it names; any other piece goes to everything in a directory whose name it accepts.
After a piece that stands for any directories, the next one is tried on all that is below.
-/

namespace MigrationAudit.FilePattern

/-- A name after a path; a path that is but the working directory is left out. -/
def onward (path name : String) : String :=
  if Path.parts path = [.current] then name else FileSystem.join path name

/-- Where a piece leads.  The dots, which name no entry, are reached by themselves and by a piece
with special signs that begins with a dot. -/
def steps (fs : FileSystem) (signs : List Sign) (path : String) : List String :=
  match plain? signs with
  | some name =>
    let next := onward path name
    if (if name = "." ∨ name = ".." then fs.isDirectory path else fs.holds next) then [next] else []
  | none =>
    ((fs.names path).filter fun name => accepts signs name.toList).map (onward path) ++
      if fs.isDirectory path ∧ signs.head? = some (.char '.') then
        ([".", ".."].filter fun name => accepts signs name.toList).map (FileSystem.join path)
      else []

/-- Where pieces lead from a path, or from any directory below it. -/
def pathsFrom (fs : FileSystem) : Bool → List Piece → String → List String
  | false, [], path => [path]
  | true, [], path =>
    ((fs.contents path).filter (·.2.isDirectory)).map fun e => e.1.foldl onward path
  | _, .anywhere :: pieces, path => pathsFrom fs true pieces path
  | false, .name signs :: pieces, path => (steps fs signs path).flatMap (pathsFrom fs false pieces)
  | true, .name signs :: pieces, path =>
    ((fs.contents path).filter fun e => e.1.getLast?.any fun name =>
      accepts signs name.toList).flatMap fun e =>
        pathsFrom fs false pieces (e.1.foldl onward path)

/-- The path from which the pieces of a pattern lead on. -/
def start (pattern : FilePattern) : String := if pattern.absolute then "/" else "."

/-- The path that the pieces without special signs at the beginning of a pattern lead to, under
which all its paths are. -/
def fixedPath (pattern : FilePattern) : String :=
  let names := pattern.pieces.map fun
    | .anywhere => none
    | .name signs => plain? signs
  ((names.takeWhile Option.isSome).filterMap id).foldl onward pattern.start

/-- The paths that a pattern stands for. -/
def paths (pattern : FilePattern) (fs : FileSystem) : List String :=
  (pathsFrom fs false pattern.pieces pattern.start).filter fun path =>
    !pattern.onlyDirectories || fs.isDirectory path

end MigrationAudit.FilePattern
