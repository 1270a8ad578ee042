/-!
# Attributes

The attributes that the elements of a changelog carry, each under one label wherever it occurs.
Labels are distinct, so a label is read back as its attribute (`ofLabel?_label`).  How an attribute
is written in a record depends on the attribute alone: as a text, as a flag, or as a scalar, which
may be a text, a number or a flag and is kept as text.
-/

namespace MigrationAudit

inductive Attribute where
  | name | type | computed | value | valueNumeric | valueDate | valueBoolean | valueBlobFile
  | valueClobFile | valueComputed | defaultValue | defaultValueNumeric | defaultValueDate
  | defaultValueBoolean | defaultValueComputed | remarks | nullable | notNullConstraintName
  | primaryKey | primaryKeyName | primaryKeyTablespace | unique | uniqueConstraintName | references
  | referencedTableCatalogName | referencedTableSchemaName | referencedTableName
  | referencedColumnNames | foreignKeyName | deleteCascade | catalogName | schemaName | tableName
  | tablespace | columnName | oldColumnName | newColumnName | columnDataType | oldTableName
  | newTableName | cascadeConstraints | newDataType | defaultNullValue | constraintName
  | columnNames | baseTableCatalogName | baseTableSchemaName | baseTableName | baseColumnNames
  | onDelete | onUpdate | indexName | sequenceName | startValue | incrementBy | minValue | maxValue
  | cycle | ordered | cacheSize | oldSequenceName | newSequenceName | dbms | viewName | selectQuery
  | replaceIfExists | fromColumnName | fromType | toColumnName | toType | sql | splitStatements
  deriving DecidableEq, Repr

/-- How the value of an attribute is written. -/
inductive AttributeForm where
  | text | flag | scalar
  deriving DecidableEq, Repr

namespace Attribute

def label : Attribute → String
  | .name => "name"
  | .type => "type"
  | .computed => "computed"
  | .value => "value"
  | .valueNumeric => "valueNumeric"
  | .valueDate => "valueDate"
  | .valueBoolean => "valueBoolean"
  | .valueBlobFile => "valueBlobFile"
  | .valueClobFile => "valueClobFile"
  | .valueComputed => "valueComputed"
  | .defaultValue => "defaultValue"
  | .defaultValueNumeric => "defaultValueNumeric"
  | .defaultValueDate => "defaultValueDate"
  | .defaultValueBoolean => "defaultValueBoolean"
  | .defaultValueComputed => "defaultValueComputed"
  | .remarks => "remarks"
  | .nullable => "nullable"
  | .notNullConstraintName => "notNullConstraintName"
  | .primaryKey => "primaryKey"
  | .primaryKeyName => "primaryKeyName"
  | .primaryKeyTablespace => "primaryKeyTablespace"
  | .unique => "unique"
  | .uniqueConstraintName => "uniqueConstraintName"
  | .references => "references"
  | .referencedTableCatalogName => "referencedTableCatalogName"
  | .referencedTableSchemaName => "referencedTableSchemaName"
  | .referencedTableName => "referencedTableName"
  | .referencedColumnNames => "referencedColumnNames"
  | .foreignKeyName => "foreignKeyName"
  | .deleteCascade => "deleteCascade"
  | .catalogName => "catalogName"
  | .schemaName => "schemaName"
  | .tableName => "tableName"
  | .tablespace => "tablespace"
  | .columnName => "columnName"
  | .oldColumnName => "oldColumnName"
  | .newColumnName => "newColumnName"
  | .columnDataType => "columnDataType"
  | .oldTableName => "oldTableName"
  | .newTableName => "newTableName"
  | .cascadeConstraints => "cascadeConstraints"
  | .newDataType => "newDataType"
  | .defaultNullValue => "defaultNullValue"
  | .constraintName => "constraintName"
  | .columnNames => "columnNames"
  | .baseTableCatalogName => "baseTableCatalogName"
  | .baseTableSchemaName => "baseTableSchemaName"
  | .baseTableName => "baseTableName"
  | .baseColumnNames => "baseColumnNames"
  | .onDelete => "onDelete"
  | .onUpdate => "onUpdate"
  | .indexName => "indexName"
  | .sequenceName => "sequenceName"
  | .startValue => "startValue"
  | .incrementBy => "incrementBy"
  | .minValue => "minValue"
  | .maxValue => "maxValue"
  | .cycle => "cycle"
  | .ordered => "ordered"
  | .cacheSize => "cacheSize"
  | .oldSequenceName => "oldSequenceName"
  | .newSequenceName => "newSequenceName"
  | .dbms => "dbms"
  | .viewName => "viewName"
  | .selectQuery => "selectQuery"
  | .replaceIfExists => "replaceIfExists"
  | .fromColumnName => "fromColumnName"
  | .fromType => "fromType"
  | .toColumnName => "toColumnName"
  | .toType => "toType"
  | .sql => "sql"
  | .splitStatements => "splitStatements"

def all : List Attribute :=
  [.name, .type, .computed, .value, .valueNumeric, .valueDate, .valueBoolean, .valueBlobFile,
   .valueClobFile, .valueComputed, .defaultValue, .defaultValueNumeric, .defaultValueDate,
   .defaultValueBoolean, .defaultValueComputed, .remarks, .nullable, .notNullConstraintName,
   .primaryKey, .primaryKeyName, .primaryKeyTablespace, .unique, .uniqueConstraintName,
   .references, .referencedTableCatalogName, .referencedTableSchemaName, .referencedTableName,
   .referencedColumnNames, .foreignKeyName, .deleteCascade, .catalogName, .schemaName, .tableName,
   .tablespace, .columnName, .oldColumnName, .newColumnName, .columnDataType, .oldTableName,
   .newTableName, .cascadeConstraints, .newDataType, .defaultNullValue, .constraintName,
   .columnNames, .baseTableCatalogName, .baseTableSchemaName, .baseTableName, .baseColumnNames,
   .onDelete, .onUpdate, .indexName, .sequenceName, .startValue, .incrementBy, .minValue,
   .maxValue, .cycle, .ordered, .cacheSize, .oldSequenceName, .newSequenceName, .dbms, .viewName,
   .selectQuery, .replaceIfExists, .fromColumnName, .fromType, .toColumnName, .toType, .sql,
   .splitStatements]

def ofLabel? (s : String) : Option Attribute := all.find? (·.label == s)

def form : Attribute → AttributeForm
  | .computed | .nullable | .primaryKey | .unique | .deleteCascade | .cascadeConstraints
  | .cycle | .ordered | .replaceIfExists | .splitStatements => .flag
  | .valueNumeric | .valueBoolean | .defaultValueNumeric | .defaultValueBoolean | .startValue
  | .incrementBy | .minValue | .maxValue | .cacheSize => .scalar
  | _ => .text

/-- The attributes of a column nested in a change. -/
def ofColumn : List Attribute :=
  [.name, .type, .computed, .value, .valueNumeric, .valueDate, .valueBoolean, .valueBlobFile,
   .valueClobFile, .valueComputed, .defaultValue, .defaultValueNumeric, .defaultValueDate,
   .defaultValueBoolean, .defaultValueComputed, .remarks]

/-- The attributes of the constraints declared inline with a column. -/
def ofConstraints : List Attribute :=
  [.nullable, .notNullConstraintName, .primaryKey, .primaryKeyName, .primaryKeyTablespace, .unique,
   .uniqueConstraintName, .references, .referencedTableCatalogName, .referencedTableSchemaName,
   .referencedTableName, .referencedColumnNames, .foreignKeyName, .deleteCascade]

theorem mem_all (a : Attribute) : a ∈ all := by
  cases a <;> decide

theorem ofLabel?_label (a : Attribute) : ofLabel? a.label = some a := by
  cases a <;> decide

end Attribute

end MigrationAudit
