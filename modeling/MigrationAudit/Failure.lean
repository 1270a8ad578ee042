/-!
# Why an audit stops

A finding about a changelog is an issue and never stops an audit.  What stops it is a mistake in the
settings, a change that lacks what it needs, or a file that cannot be read.  Each cause is a
constructor with its particulars, and `Failure.message` is its wording.
-/

namespace MigrationAudit

inductive Failure where
  /-- The change types that are both included and excluded. -/
  | overlappingFilters (changes : List String)
  | unknownChangeType (name : String)
  | invalidLimit (key value : String)
  | missingValidatorName (key : String)
  | invalidIssuePattern (pattern : String)
  | blankExpectation
  | unknownAttribute (element field : String)
  | missingAttribute (element field : String)
  | malformedNumber (field value : String)
  | contextWithoutChange (field : String)
  | unreadableChangelog (path : String)
  | malformedChangelog (path : String)
  | unwalkableDirectory (path : String)
  | invalidFilePattern (pattern : String)
  deriving DecidableEq, Repr

namespace Failure

def message : Failure → String
  | overlappingFilters changes =>
    "Some changes are included in both includeChanges/excludeChanges: " ++ ", ".intercalate changes
  | unknownChangeType name => s!"Unknown change type in filter: {name}"
  | invalidLimit key value => s!"Invalid value '{value}' for validator parameter {key}"
  | missingValidatorName key => s!"Validator parameter {key} is not addressed to any validator"
  | invalidIssuePattern pattern => s!"Invalid issue pattern: {pattern}"
  | blankExpectation => "Expected value of an equality rule must not be blank"
  | unknownAttribute element field =>
    s!"Attribute {field} is not defined for element {element}"
  | missingAttribute element field => s!"Element {element} requires attribute {field}"
  | malformedNumber field value =>
    s!"Attribute {field} has a non numeric value '{value}'"
  | contextWithoutChange field =>
    s!"Evaluation context for attribute {field} has no change ancestor"
  | unreadableChangelog path => s!"Failed to read changelog file: {path}"
  | malformedChangelog path => s!"Failed to parse changelog file: {path}"
  | unwalkableDirectory path => s!"Failed to walk source directory: {path}"
  | invalidFilePattern pattern => s!"Invalid changelog include pattern: {pattern}"

/-- A number found malformed while a rule was tried is reported at the field under the rule. -/
def atField (field : String) : Failure → Failure
  | malformedNumber _ value => malformedNumber field value
  | failure => failure

end Failure

end MigrationAudit
