import MigrationAudit.Path.Basic

/-!
# Expected logical paths

Either all changelogs have one logical path, or the logical path is the directory of the file below
a source directory, its names joined by dots, with a suffix after one more dot if one is wanted.
-/

namespace MigrationAudit

inductive ExpectedPath where
  | artifact (name : String)
  | below (directory : String) (suffix : Option String)
  deriving DecidableEq, Repr

namespace ExpectedPath

open MigrationAudit.Path

/-- The names of the directories between a source directory and a file; all directories of the file
if it is not below. -/
def directoryNames (directory file : String) : List String :=
  let holder := parentParts (parts file)
  ((partsBelow? (parts directory) holder).getD holder).filterMap Part.name?

def forFile (expected : ExpectedPath) (file : String) : String :=
  match expected with
  | .artifact name => name
  | .below directory suffix =>
    Text.joinWith "." (directoryNames directory file) ++ suffix.elim "" ("." ++ ·)

end ExpectedPath

end MigrationAudit
