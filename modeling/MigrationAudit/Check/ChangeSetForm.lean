import MigrationAudit.Check.Basic
import MigrationAudit.Pattern.Reader
import MigrationAudit.Text.Case

/-!
# The form of a change set

The identifier of a change set begins with the issue it belongs to and ends with a progressive
number; its author is named; and no check sum lets any content pass.
-/

namespace MigrationAudit

/-- How identifiers begin, and what they are as a whole. -/
structure IssuePattern where
  beginning : Pattern
  whole : Pattern

namespace IssuePattern

/-- The pattern of an issue, as written in the settings. -/
def ofText (text : String) : Except Failure IssuePattern :=
  match Pattern.ofText? ("^(?:" ++ text ++ ")"),
      Pattern.ofText? ("^(?:" ++ text ++ ")-\\d+$") with
  | some beginning, some whole => .ok ⟨beginning, whole⟩
  | _, _ => .error (.invalidIssuePattern text)

/-- A key of at least four capital letters and digits with a number, or a number alone. -/
def defaultText : String := "[A-Z][A-Z0-9]\x7b3,\x7d-\\d+|\\d\x7b1,6\x7d"

/-- What is wrong with an identifier; nothing if it is empty. -/
def cause? (pattern : IssuePattern) (id : String) : Option Cause :=
  if id = "" then none
  else if !pattern.beginning.isFoundIn id then some .noIssueInId
  else if !pattern.whole.isFoundIn id then some .noProgressiveNumber
  else none

end IssuePattern

namespace Check

open Text

def issueId (pattern : IssuePattern) (place : SetPlace) : List Issue :=
  (pattern.cause? place.changeSet.id).toList.map (Issue.ofSet place (some "id")) ++
    (causeIf (place.changeSet.author.all (· == "")) .noAuthor).toList.map
      (Issue.ofSet place (some "author"))

/-- The check sums that accept any content. -/
def permissiveCheckSums : List String := ["1:any", "1:all", "1:1:*", "1:*"]

def checkSums (place : SetPlace) : List Issue :=
  ((place.changeSet.validCheckSums.map fun s => lower (trim s)).filter
    (· ∈ permissiveCheckSums)).map fun sum =>
      Issue.ofSetElement place "validCheckSum" (.permissiveCheckSum sum)

end Check

end MigrationAudit
