import MigrationAudit.Check.Basic
import MigrationAudit.Memory.Basic
import MigrationAudit.Path.Expected

/-!
# Logical paths

A changelog has a logical path, which is not that of its file but the one its project expects.
Every file is judged once in a session, with the first of its change sets.
-/

namespace MigrationAudit.Check

/-- What is wrong with the logical path of a changelog. -/
def logicalPathCause? (expected : ExpectedPath) (log : Changelog) : Option Cause :=
  match log.logicalFilePath with
  | none => some .noLogicalPath
  | some path =>
    if path = "" ∨ path = log.physicalFilePath then some .noLogicalPath
    else if path ≠ expected.forFile log.physicalFilePath then some .unexpectedLogicalPath
    else none

def logicalPath (expected : ExpectedPath) (log : Changelog) (memory : Memory) :
    List Issue × Memory :=
  if log.physicalFilePath ∈ memory.judgedFiles then ([], memory)
  else
    ((logicalPathCause? expected log).toList.map
        (Issue.ofChangelog log (some "logicalFilePath")),
      { memory with judgedFiles := log.physicalFilePath :: memory.judgedFiles })

end MigrationAudit.Check
