import MigrationAudit.Check.Basic
import MigrationAudit.Schema.Script
import MigrationAudit.Schema.Store

/-!
# Columns that constraints refer to

A column with constraints on it is neither renamed nor given another base type.  The change has been
replayed when it is judged, so a renamed column is found under its new name, and a changed type is
compared with the former one.
-/

namespace MigrationAudit.Check

open Text

/-- Whether the base type is the same as before, up to the case of ASCII letters. -/
def keepsType (column : Column) (declaration : Option String) : Bool :=
  match column.oldType, declaration with
  | some old, some new => sameAsciiCase old (Declaration.base new)
  | _, _ => false

def renamedCause? (store : Store) (c : Change) : Except Failure (Option Cause) := do
  let table ← c.require .tableName
  let name ← c.require .newColumnName
  return (store.column? table name).bind fun column =>
    causeIf (!column.constraints.isEmpty)
      (.renamedWhileReferred table ((c.text? .oldColumnName).getD "null") column.constraints)

def modifiedCause? (store : Store) (c : Change) : Except Failure (Option Cause) := do
  let table ← c.require .tableName
  let name ← c.require .columnName
  return (store.column? table name).bind fun column =>
    causeIf (!column.constraints.isEmpty && !keepsType column (c.text? .newDataType))
      (.modifiedWhileReferred table name column.constraints)

def referredColumn (store : Store) (place : ChangePlace) : Findings := do
  let cause ← match place.change.element with
    | .renameColumn => renamedCause? store place.change
    | .modifyDataType | .resizeDataType => modifiedCause? store place.change
    | _ => pure none
  return onChange place none cause

end MigrationAudit.Check
