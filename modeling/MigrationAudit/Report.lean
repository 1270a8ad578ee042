import MigrationAudit.Issue
import MigrationAudit.Json.Printer

/-!
# Reports

A report shows issues file by file, files in the order of their first issue and the issues of a file
in their own order.  The same issues can be written as JSON, all in one list.
-/

namespace MigrationAudit.Report

/-- The groups with one more issue: in the group of its file, or in a new one at the end. -/
def addTo (issue : Issue) : List (String × List Issue) → List (String × List Issue)
  | [] => [(issue.file, [issue])]
  | g :: gs => if g.1 = issue.file then (g.1, g.2 ++ [issue]) :: gs else g :: addTo issue gs

/-- The issues by file. -/
def groups (issues : List Issue) : List (String × List Issue) :=
  issues.foldl (fun gs issue => addTo issue gs) []

/-- The line for an issue. -/
def line (issue : Issue) : String :=
  match issue.changeSetId, issue.element with
  | some id, some element =>
    s!"ChangeSet {id}, element {element} has a violation: " ++ issue.message
  | some id, none => s!"ChangeSet {id}, has a violation: " ++ issue.message
  | none, _ => "ChangeLog " ++ issue.file ++ " has a violation: " ++ issue.message

def groupText (g : String × List Issue) : String :=
  "There are violations on changelog " ++ g.1 ++ "\n" ++
    String.join (g.2.map fun issue => "  " ++ line issue ++ "\n")

def text (issues : List Issue) : String := String.join ((groups issues).map groupText)

def issueJson (issue : Issue) : Json :=
  .record
    [("file", .text issue.file), ("element", .optional issue.element),
     ("attribute", .optional issue.field), ("message", .text issue.message),
     ("changeSetId", .optional issue.changeSetId),
     ("changeSetAuthor", .optional issue.changeSetAuthor)]

def json (issues : List Issue) : String := (Json.list (issues.map issueJson)).pretty

end MigrationAudit.Report
