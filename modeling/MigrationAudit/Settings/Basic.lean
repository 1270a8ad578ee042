import MigrationAudit.Check.ChangeSetForm
import MigrationAudit.Settings.Limits

/-!
# Settings

What can be set for an audit, as it is written down.  An absent pattern switches the check of
identifiers off, and without artifact and source directory no logical path is expected.
-/

namespace MigrationAudit

structure Settings where
  includeChanges : List String
  excludeChanges : List String
  /-- The names of checks that are left out. -/
  ignoreRules : List String
  /-- The identifiers of change sets that may be left out. -/
  skipChangeSets : List String
  issuePattern : Option String
  artifactId : Option String
  sourceDir : Option String
  typedValues : Bool
  limits : Limits
  parameters : Parameters
  deriving DecidableEq, Repr

def Settings.default : Settings :=
  { includeChanges := []
    excludeChanges := []
    ignoreRules := []
    skipChangeSets := []
    issuePattern := some IssuePattern.defaultText
    artifactId := none
    sourceDir := none
    typedValues := false
    limits := .default
    parameters := [] }

end MigrationAudit
