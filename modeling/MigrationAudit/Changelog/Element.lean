import MigrationAudit.Changelog.Attribute

/-!
# Elements

A change is written under an element name, one for every kind of schema change.  The element fixes
which attributes the change may carry, whether columns nest in it and which attribute holds the
table it works on.  Names are distinct, so a name is read back as its element (`ofName?_name`).
-/

namespace MigrationAudit

inductive Element where
  | createTable | addColumn | dropColumn | renameColumn | renameTable | dropTable | modifyDataType
  | resizeDataType | addNotNullConstraint | dropNotNullConstraint | addUniqueConstraint
  | dropUniqueConstraint | addPrimaryKey | dropPrimaryKey | addForeignKeyConstraint
  | dropForeignKeyConstraint | dropAllForeignKeyConstraints | createIndex | dropIndex
  | createSequence | alterSequence | renameSequence | dropSequence | insert | createView | dropView
  | copyColumn | sql
  deriving DecidableEq, Repr

namespace Element

def name : Element → String
  | .createTable => "createTable"
  | .addColumn => "addColumn"
  | .dropColumn => "dropColumn"
  | .renameColumn => "renameColumn"
  | .renameTable => "renameTable"
  | .dropTable => "dropTable"
  | .modifyDataType => "modifyDataType"
  | .resizeDataType => "resizeDataType"
  | .addNotNullConstraint => "addNotNullConstraint"
  | .dropNotNullConstraint => "dropNotNullConstraint"
  | .addUniqueConstraint => "addUniqueConstraint"
  | .dropUniqueConstraint => "dropUniqueConstraint"
  | .addPrimaryKey => "addPrimaryKey"
  | .dropPrimaryKey => "dropPrimaryKey"
  | .addForeignKeyConstraint => "addForeignKeyConstraint"
  | .dropForeignKeyConstraint => "dropForeignKeyConstraint"
  | .dropAllForeignKeyConstraints => "dropAllForeignKeyConstraints"
  | .createIndex => "createIndex"
  | .dropIndex => "dropIndex"
  | .createSequence => "createSequence"
  | .alterSequence => "alterSequence"
  | .renameSequence => "renameSequence"
  | .dropSequence => "dropSequence"
  | .insert => "insert"
  | .createView => "createView"
  | .dropView => "dropView"
  | .copyColumn => "copyColumn"
  | .sql => "sql"

/-- Every element, in the order in which lists of elements are shown. -/
def all : List Element :=
  [.createTable, .addColumn, .dropColumn, .renameColumn, .renameTable, .dropTable,
   .modifyDataType, .resizeDataType, .addNotNullConstraint, .dropNotNullConstraint,
   .addUniqueConstraint, .dropUniqueConstraint, .addPrimaryKey, .dropPrimaryKey,
   .addForeignKeyConstraint, .dropForeignKeyConstraint, .dropAllForeignKeyConstraints,
   .createIndex, .dropIndex, .createSequence, .alterSequence, .renameSequence, .dropSequence,
   .insert, .createView, .dropView, .copyColumn, .sql]

def ofName? (s : String) : Option Element := all.find? (·.name == s)

/-- The element of which this one is a special case. -/
def parent? : Element → Option Element
  | .resizeDataType => some .modifyDataType
  | _ => none

/-- An element is itself and, if it is a special case, also the general one. -/
def isA (e f : Element) : Bool := e == f || e.parent? == some f

/-- The attributes that can be looked up in a change of an element. -/
def attributes : Element → List Attribute
  | .createTable => [.catalogName, .schemaName, .tableName, .tablespace, .remarks]
  | .addColumn => [.catalogName, .schemaName, .tableName]
  | .dropColumn => [.catalogName, .schemaName, .tableName, .columnName]
  | .renameColumn =>
    [.catalogName, .schemaName, .tableName, .oldColumnName, .newColumnName, .columnDataType]
  | .renameTable => [.catalogName, .schemaName, .oldTableName, .newTableName]
  | .dropTable => [.catalogName, .schemaName, .tableName, .cascadeConstraints]
  | .modifyDataType | .resizeDataType =>
    [.catalogName, .schemaName, .tableName, .columnName, .newDataType]
  | .addNotNullConstraint =>
    [.catalogName, .schemaName, .tableName, .columnName, .defaultNullValue, .columnDataType,
     .constraintName]
  | .dropNotNullConstraint =>
    [.catalogName, .schemaName, .tableName, .columnName, .columnDataType]
  | .addUniqueConstraint =>
    [.catalogName, .schemaName, .tableName, .columnNames, .constraintName, .tablespace]
  | .dropUniqueConstraint => [.catalogName, .schemaName, .tableName, .constraintName]
  | .addPrimaryKey =>
    [.catalogName, .schemaName, .tableName, .columnNames, .constraintName, .tablespace]
  | .dropPrimaryKey => [.catalogName, .schemaName, .tableName, .constraintName]
  | .addForeignKeyConstraint =>
    [.baseTableCatalogName, .baseTableSchemaName, .baseTableName, .baseColumnNames,
     .referencedTableCatalogName, .referencedTableSchemaName, .referencedTableName,
     .referencedColumnNames, .constraintName, .onDelete, .onUpdate]
  | .dropForeignKeyConstraint =>
    [.baseTableCatalogName, .baseTableSchemaName, .baseTableName, .constraintName]
  | .dropAllForeignKeyConstraints => [.baseTableCatalogName, .baseTableSchemaName, .baseTableName]
  | .createIndex => [.catalogName, .schemaName, .tableName, .indexName, .unique, .tablespace]
  | .dropIndex => [.catalogName, .schemaName, .tableName, .indexName]
  | .createSequence =>
    [.catalogName, .schemaName, .sequenceName, .startValue, .incrementBy, .minValue, .maxValue,
     .cycle, .ordered, .cacheSize]
  | .alterSequence =>
    [.catalogName, .schemaName, .sequenceName, .incrementBy, .minValue, .maxValue, .ordered,
     .cacheSize]
  | .renameSequence => [.catalogName, .schemaName, .oldSequenceName, .newSequenceName]
  | .dropSequence => [.catalogName, .schemaName, .sequenceName]
  | .insert => [.catalogName, .schemaName, .tableName, .dbms]
  | .createView => [.catalogName, .schemaName, .viewName, .selectQuery, .replaceIfExists]
  | .dropView => [.catalogName, .schemaName, .viewName]
  | .copyColumn =>
    [.catalogName, .schemaName, .tableName, .fromColumnName, .fromType, .toColumnName, .toType]
  | .sql => [.sql, .dbms, .splitStatements]

/-- Whether columns nest in the element; a record without labels lists them last. -/
def nestsColumns : Element → Bool
  | .createTable | .addColumn | .dropColumn | .createIndex | .insert => true
  | _ => false

/-- The attribute that names the table an element works on: the new name where a table is renamed,
the base table where a foreign key is concerned. -/
def tableAttribute? : Element → Option Attribute
  | .renameTable => some .newTableName
  | .addForeignKeyConstraint | .dropForeignKeyConstraint | .dropAllForeignKeyConstraints =>
    some .baseTableName
  | .createSequence | .alterSequence | .renameSequence | .dropSequence | .createView | .dropView
  | .sql => none
  | _ => some .tableName

theorem mem_all (e : Element) : e ∈ all := by
  cases e <;> decide

theorem ofName?_name (e : Element) : ofName? e.name = some e := by
  cases e <;> decide

end Element

end MigrationAudit
