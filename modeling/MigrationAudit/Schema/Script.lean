import MigrationAudit.Changelog.Change
import MigrationAudit.Declaration
import MigrationAudit.Schema.Identity

/-!
# What a change does to a schema

A change amounts to a script: a list of edits, and perhaps a failure behind them that cuts the
change short.  The script depends on the change alone.  Two listeners write it: one for the columns
and one for the constraints on them; the second writes nothing when the first fails.
-/

namespace MigrationAudit

inductive Edit where
  /-- A column with the type that its declaration gives. -/
  | declare (table column : String) (nullable : Bool) (declaration : Option String)
  | renameTable (old new : String)
  | renameColumn (table old new : String)
  | setNullable (table column : String) (nullable : Bool)
  | setType (table column : String) (declaration : Option String)
  | dropTable (table : String)
  | dropColumn (table column : String)
  /-- A constraint on a column, without effect if the column is not known. -/
  | attach (table column : String) (name : Option String) (kind : ConstraintKind)
  | detachNamed (table name : String)
  /-- Primary keys go, and whatever bears the name. -/
  | detachPrimaryKeys (table : String) (name : Option String)
  | detachForeignKeys (table : String)
  deriving DecidableEq, Repr

structure Script where
  edits : List Edit
  failure : Option Failure
  deriving DecidableEq, Repr

namespace Script

def nothing : Script := ⟨[], none⟩

def fail (failure : Failure) : Script := ⟨[], some failure⟩

/-- The second script follows unless the first fails. -/
def andThen (s t : Script) : Script :=
  match s.failure with
  | some _ => s
  | none => ⟨s.edits ++ t.edits, t.failure⟩

def ofResult : Except Failure Script → Script
  | .ok s => s
  | .error failure => fail failure

/-- The edits for nested columns one after the other, up to the first column without a name. -/
def overColumns (edits : String → NestedColumn → List Edit) : List NestedColumn → Script
  | [] => nothing
  | c :: cs =>
    match c.name? with
    | none => fail (.missingAttribute "column" "name")
    | some name => andThen ⟨edits name c, none⟩ (overColumns edits cs)

end Script

namespace Change

/-- The value of an attribute that the change cannot do without. -/
def require (c : Change) (a : Attribute) : Except Failure String :=
  match c.text? a with
  | some s => .ok s
  | none => .error (.missingAttribute c.element.name a.label)

def declareColumns (c : Change) : Except Failure Script := do
  let table ← c.require .tableName
  return .overColumns (fun name n => [.declare table name n.nullable (n.text? .type)]) c.nested

/-- The script for the columns. -/
def columnScript (c : Change) : Script := Script.ofResult <|
  match c.element with
  | .createTable | .addColumn => c.declareColumns
  | .renameTable => do
    let old ← c.require .oldTableName
    let new ← c.require .newTableName
    return ⟨[.renameTable old new], none⟩
  | .renameColumn => do
    let table ← c.require .tableName
    let old ← c.require .oldColumnName
    let new ← c.require .newColumnName
    return ⟨[.renameColumn table old new], none⟩
  | .addNotNullConstraint => do
    let table ← c.require .tableName
    let column ← c.require .columnName
    return ⟨[.setNullable table column false], none⟩
  | .dropNotNullConstraint => do
    let table ← c.require .tableName
    let column ← c.require .columnName
    return ⟨[.setNullable table column true], none⟩
  | .modifyDataType | .resizeDataType => do
    let table ← c.require .tableName
    let column ← c.require .columnName
    return ⟨[.setType table column (c.text? .newDataType)], none⟩
  | .dropTable => do
    let table ← c.require .tableName
    return ⟨[.dropTable table], none⟩
  | .dropColumn => do
    let table ← c.require .tableName
    let single := (c.text? .columnName).toList.map (Edit.dropColumn table)
    return .andThen ⟨single, none⟩ (.overColumns (fun name _ => [.dropColumn table name]) c.nested)
  | _ => return .nothing

/-- The constraints declared inline with a column: primary key, unique index and foreign key. -/
def inlineEdits (table column : String) (constraints : InlineConstraints) : List Edit :=
  (if constraints.flag? .primaryKey = some true then
    [.attach table column (constraints.text? .primaryKeyName) .primaryKey] else []) ++
  (if constraints.flag? .unique = some true then
    [.attach table column (constraints.text? .uniqueConstraintName) .index] else []) ++
  (if constraints.reference?.isSome then
    [.attach table column (constraints.text? .foreignKeyName) .foreignKey] else [])

/-- One constraint on every column of a list of names. -/
def attachAll (table : String) (columns name : Option String) (kind : ConstraintKind) : Script :=
  ⟨(columns.toList.flatMap Text.names).map fun column => .attach table column name kind, none⟩

def detachByName (c : Change) (owner target : Attribute) : Except Failure Script := do
  let table ← c.require owner
  return ⟨(c.text? target).toList.map (Edit.detachNamed table), none⟩

/-- The script for the constraints. -/
def constraintScript (c : Change) : Script := Script.ofResult <|
  match c.element with
  | .createTable | .addColumn => do
    let table ← c.require .tableName
    return .overColumns
      (fun name n => (n.constraints?.toList.flatMap (inlineEdits table name))) c.nested
  | .createIndex => do
    let table ← c.require .tableName
    return .overColumns (fun name _ => [.attach table name (c.text? .indexName) .index]) c.nested
  | .addUniqueConstraint => do
    let table ← c.require .tableName
    return attachAll table (c.text? .columnNames) (c.text? .constraintName) .index
  | .addPrimaryKey => do
    let table ← c.require .tableName
    return attachAll table (c.text? .columnNames) (c.text? .constraintName) .primaryKey
  | .addForeignKeyConstraint => do
    let table ← c.require .baseTableName
    return attachAll table (c.text? .baseColumnNames) (c.text? .constraintName) .foreignKey
  | .dropIndex => c.detachByName .tableName .indexName
  | .dropUniqueConstraint => c.detachByName .tableName .constraintName
  | .dropForeignKeyConstraint => c.detachByName .baseTableName .constraintName
  | .dropPrimaryKey => do
    let table ← c.require .tableName
    return ⟨[.detachPrimaryKeys table (c.text? .constraintName)], none⟩
  | .dropAllForeignKeyConstraints => do
    let table ← c.require .baseTableName
    return ⟨[.detachForeignKeys table], none⟩
  | _ => return .nothing

/-- All that the change does. -/
def script (c : Change) : Script := c.columnScript.andThen c.constraintScript

end Change

/-- Whether changes of this element concern the columns. -/
def Element.editsColumns : Element → Bool
  | .createTable | .addColumn | .renameTable | .renameColumn | .addNotNullConstraint
  | .dropNotNullConstraint | .dropTable | .dropColumn | .modifyDataType | .resizeDataType => true
  | _ => false

/-- Whether changes of this element concern the constraints on columns. -/
def Element.editsConstraints : Element → Bool
  | .createTable | .addColumn | .createIndex | .addUniqueConstraint | .addPrimaryKey
  | .addForeignKeyConstraint | .dropIndex | .dropUniqueConstraint | .dropPrimaryKey
  | .dropForeignKeyConstraint | .dropAllForeignKeyConstraints => true
  | _ => false

end MigrationAudit
