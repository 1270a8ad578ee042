import MigrationAudit.Check.ColumnDeclaration
import MigrationAudit.Schema.Script
import MigrationAudit.Schema.Store

/-!
# Null values

A column that may not be null needs a value for the rows that are there already, unless it was
created in the same change set.  The tenant of a row is never null at the end of a change set.  No
unique constraint covers a column that may be null.
-/

namespace MigrationAudit.Check

/-- Whether a change creates columns. -/
def createsColumns : Element → Bool
  | .createTable | .addColumn => true
  | _ => false

/-- Whether a change creates the column of a table; absent tables are the same table. -/
def declaresColumn (table column : Option String) (c : Change) : Bool :=
  createsColumns c.element && c.text? .tableName == table &&
    c.columns.any fun n => n.name?.isSome && n.name? == column

/-- A column that is declared not null without a default. -/
def isNotNullWithoutDefault (c : NestedColumn) : Bool :=
  (c.constraints?.bind (·.flag? .nullable)) == some false && !c.hasDefaultValue

def notNullWithoutDefault (place : ChangePlace) : List Issue :=
  let c := place.change
  match c.element with
  | .addNotNullConstraint =>
    let createdHere :=
      place.earlier.any (declaresColumn (c.text? .tableName) (c.text? .columnName))
    onChange place (some .defaultNullValue) <|
      causeIf ((c.value? .defaultNullValue).isNone && !createdHere) .notNullWithoutDefault
  | .addColumn =>
    (c.columns.filter isNotNullWithoutDefault).map fun _ =>
      columnIssue place none .notNullColumnWithoutDefault
  | _ => []

/-- Whether a change makes the tenant column of a table not null. -/
def deniesNullTenant (table : Option String) (c : Change) : Bool :=
  c.element == .addNotNullConstraint && c.text? .columnName == some tenantColumn &&
    c.text? .tableName == table

/-- The first declaration of a tenant column, if any, is not null or made so later in the set. -/
def nullableTenant (place : ChangePlace) : List Issue :=
  let c := place.change
  if createsColumns c.element then
    match c.columns.find? (·.name? == some tenantColumn) with
    | some tenant =>
      if tenant.nullable && !place.later.any (deniesNullTenant (c.text? .tableName))
        then [columnIssue place none .nullableTenant] else []
    | none => []
  else []

/-- A unique constraint covers no column that is known to be nullable. -/
def nullableUnique (store : Store) (place : ChangePlace) : Findings :=
  let c := place.change
  if c.element = .addUniqueConstraint then do
    let table ← c.require .tableName
    let nullable := ((c.text? .columnNames).toList.flatMap Text.names).filter fun name =>
      (store.column? table name).any (·.nullable)
    return onChange place (some .columnNames) <|
      causeIf (!nullable.isEmpty) (.nullableUnique (c.text? .constraintName) nullable table)
  else .ok []

end MigrationAudit.Check
