import MigrationAudit.Rule.Context

/-!
# Checks

A check looks at a change in its place and finds issues with it.  Some checks fail where something
they need is missing or no number; the others say by their type that they never do.  Many checks try
one rule on some fields of the change.
-/

namespace MigrationAudit

/-- The issues that are found, or why nothing could be said. -/
abbrev Findings := Except Failure (List Issue)

namespace Check

/-- A rule on several fields of a change. -/
def onFields (rule : Rule) (fields : List String) (place : ChangePlace) : Findings :=
  Binding.runAll (Binding.each rule (fields.map (Context.ofSubject (.change place))))

def labels (attributes : List Attribute) : List String := attributes.map Attribute.label

/-- An issue of the change if there is cause for one. -/
def onChange (place : ChangePlace) (a : Option Attribute) (cause : Option Cause) : List Issue :=
  cause.toList.map (Issue.ofChange place (a.map Attribute.label))

/-- The cause, if the condition holds. -/
def causeIf (condition : Bool) (cause : Cause) : Option Cause :=
  if condition then some cause else none

/-- An issue of a column nested in the change. -/
def columnIssue (place : ChangePlace) (a : Option String) (cause : Cause) : Issue :=
  Issue.ofElement place "column" a cause

end Check

end MigrationAudit
