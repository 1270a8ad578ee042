import MigrationAudit.Changelog.Place
import MigrationAudit.Json.Record

/-!
# Reading changelogs

A change is an object whose member `change` names its element, or a list that starts with that name;
its attributes and nested columns are a record whose fields follow from the element.  What a record
may hold is listed here for each kind of record, apart from the attributes that can be looked up in
what is read.  A change is first gone through as a whole for faults of the text, so a fault of its
fields is always one of shape, and a fault of the text anywhere in it comes before one of its
fields.
-/

namespace MigrationAudit

/-- A value in the form in which its attribute is written; nothing where null is written. -/
def AttributeForm.read : AttributeForm → Json → Reading (Option AttributeValue)
  | .text, j => do return (← j.readOptional Json.readText).map .text
  | .flag, j => do return (← j.readOptional Json.readFlag).map .flag
  | .scalar, j => do return (← j.readOptional Json.readScalar).map .text

/-- Values with one more, if there is one. -/
def AttributeValues.add (values : AttributeValues) (a : Attribute) :
    Option AttributeValue → AttributeValues
  | none => values
  | some v => values ++ [(a, v)]

def Attribute.read (a : Attribute) (j : Json) : Reading (AttributeValues → AttributeValues) := do
  let v ← a.form.read j
  return fun values => values.add a v

/-- The field of an attribute, in records whose values change by `update`. -/
def Attribute.field {ρ : Type} (update : (AttributeValues → AttributeValues) → ρ → ρ)
    (a : Attribute) : RecordField ρ :=
  ⟨a.label, fun _ j => do let add ← a.read j; return update add⟩

namespace InlineConstraints

/-- The attributes that a record of constraints may hold, in the order of a list. -/
def declared : List Attribute :=
  [.nullable, .notNullConstraintName, .primaryKey, .primaryKeyName, .primaryKeyTablespace, .unique,
   .uniqueConstraintName, .references, .referencedTableCatalogName, .referencedTableSchemaName,
   .referencedTableName, .referencedColumnNames, .foreignKeyName, .deleteCascade]

def fields : List (RecordField InlineConstraints) :=
  declared.map (Attribute.field fun add c => ⟨add c.values⟩)

def read : JsonReader InlineConstraints := Json.readRecord fields ⟨[]⟩

end InlineConstraints

namespace NestedColumn

/-- The attributes that a record of a column may hold, in the order of a list. -/
def declared : List Attribute :=
  [.name, .type, .computed, .value, .valueNumeric, .valueDate, .valueBoolean, .valueBlobFile,
   .valueClobFile, .valueComputed, .defaultValue, .defaultValueNumeric, .defaultValueDate,
   .defaultValueBoolean, .defaultValueComputed, .remarks]

def constraintsField : RecordField NestedColumn :=
  ⟨"constraints", fun depth j => do
    let constraints ← j.readOptional (InlineConstraints.read depth)
    return fun c => { c with constraints? := constraints }⟩

def fields : List (RecordField NestedColumn) :=
  declared.map (Attribute.field fun add c => { c with values := add c.values }) ++
    [constraintsField]

def read : JsonReader NestedColumn := Json.readRecord fields ⟨[], none⟩

end NestedColumn

/-- The attributes that a record of an element may hold, in the order of a list. -/
def Element.declared : Element → List Attribute
  | .createTable => [.catalogName, .schemaName, .tableName, .tablespace, .remarks]
  | .addColumn => [.catalogName, .schemaName, .tableName]
  | .dropColumn => [.catalogName, .schemaName, .tableName, .columnName]
  | .renameColumn =>
    [.catalogName, .schemaName, .tableName, .oldColumnName, .newColumnName, .columnDataType]
  | .renameTable => [.catalogName, .schemaName, .oldTableName, .newTableName]
  | .dropTable => [.catalogName, .schemaName, .tableName, .cascadeConstraints]
  | .modifyDataType | .resizeDataType =>
    [.catalogName, .schemaName, .tableName, .columnName, .newDataType]
  | .addNotNullConstraint =>
    [.catalogName, .schemaName, .tableName, .columnName, .defaultNullValue, .columnDataType,
     .constraintName]
  | .dropNotNullConstraint =>
    [.catalogName, .schemaName, .tableName, .columnName, .columnDataType]
  | .addUniqueConstraint =>
    [.catalogName, .schemaName, .tableName, .columnNames, .constraintName, .tablespace]
  | .dropUniqueConstraint => [.catalogName, .schemaName, .tableName, .constraintName]
  | .addPrimaryKey =>
    [.catalogName, .schemaName, .tableName, .columnNames, .constraintName, .tablespace]
  | .dropPrimaryKey => [.catalogName, .schemaName, .tableName, .constraintName]
  | .addForeignKeyConstraint =>
    [.baseTableCatalogName, .baseTableSchemaName, .baseTableName, .baseColumnNames,
     .referencedTableCatalogName, .referencedTableSchemaName, .referencedTableName,
     .referencedColumnNames, .constraintName, .onDelete, .onUpdate]
  | .dropForeignKeyConstraint =>
    [.baseTableCatalogName, .baseTableSchemaName, .baseTableName, .constraintName]
  | .dropAllForeignKeyConstraints => [.baseTableCatalogName, .baseTableSchemaName, .baseTableName]
  | .createIndex => [.catalogName, .schemaName, .tableName, .indexName, .unique, .tablespace]
  | .dropIndex => [.catalogName, .schemaName, .tableName, .indexName]
  | .createSequence =>
    [.catalogName, .schemaName, .sequenceName, .startValue, .incrementBy, .minValue, .maxValue,
     .cycle, .ordered, .cacheSize]
  | .alterSequence =>
    [.catalogName, .schemaName, .sequenceName, .incrementBy, .minValue, .maxValue, .ordered,
     .cacheSize]
  | .renameSequence => [.catalogName, .schemaName, .oldSequenceName, .newSequenceName]
  | .dropSequence => [.catalogName, .schemaName, .sequenceName]
  | .insert => [.catalogName, .schemaName, .tableName, .dbms]
  | .createView => [.catalogName, .schemaName, .viewName, .selectQuery, .replaceIfExists]
  | .dropView => [.catalogName, .schemaName, .viewName]
  | .copyColumn =>
    [.catalogName, .schemaName, .tableName, .fromColumnName, .fromType, .toColumnName, .toType]
  | .sql => [.sql, .dbms, .splitStatements]

namespace Change

def columnsField : RecordField Change :=
  ⟨"columns", fun depth j => do
    let columns ← j.readList NestedColumn.read depth
    return fun c => { c with nested := columns }⟩

/-- The attributes of an element, then its nested columns if it nests any. -/
def fields (e : Element) : List (RecordField Change) :=
  e.declared.map (Attribute.field fun add c => { c with values := add c.values }) ++
    if e.nestsColumns then [columnsField] else []

/-- The member that names the element. -/
def elementKey : String := "change"

def readElement : Json → Reading Element
  | .text s =>
    match Element.ofName? s with
    | some e => .ok e
    | none => .error .mismatched
  | j => .error j.mismatch

/-- The element that an object of a change names, once the whole object is found to be in order. -/
def elementOf (depth : Nat) : Option Element → JsonMembers → Reading (Option Element)
  | found, .stop none => .ok found
  | _, .stop (some fault) => .error fault
  | _, .member none _ _ => .error .malformed
  | found, .member (some key) value rest =>
    if key = elementKey then
      if found.isSome then .error .mismatched
      else do
        let e ← readElement value
        elementOf depth (some e) rest
    else do
      JsonFault.check (value.readFault depth)
      elementOf depth found rest

/-- In text that is in order, every fault is one of shape. -/
def inOrder {α : Type} (r : Reading α) : Reading α := r.mapError fun _ => .mismatched

def read (depth : Nat) : Json → Reading Change
  | .object members => do
    unless depth + 1 < Json.depthLimit do throw .malformed
    match ← elementOf (depth + 1) none members with
    | none => throw .mismatched
    | some e => inOrder (members.readFields (fields e) (depth + 1) [] ⟨e, [], []⟩)
  | .array items => do
    unless depth + 1 < Json.depthLimit do throw .malformed
    match items with
    | .stop fault =>
      JsonFault.check fault
      throw .mismatched
    | .item head rest =>
      let e ← readElement head
      JsonFault.check (rest.readFault (depth + 1))
      inOrder (rest.readFields (depth + 1) (fields e) ⟨e, [], []⟩)
  | j => .error j.mismatch

end Change

namespace Preconditions

def empty : Preconditions := ⟨none, none, 0⟩

def fields : List (RecordField Preconditions) :=
  [⟨"onFail", fun _ j => do
      let s ← j.readOptional Json.readText
      return fun p => { p with onFail := s }⟩,
   ⟨"onError", fun _ j => do
      let s ← j.readOptional Json.readText
      return fun p => { p with onError := s }⟩,
   ⟨"conditions", fun depth j => do
      let conditions ← j.readList (fun depth j => JsonFault.check (j.readFault depth)) depth
      return fun p => { p with conditionCount := conditions.length }⟩]

def read : JsonReader Preconditions := Json.readRecord fields empty

end Preconditions

def Json.readTextList (depth : Nat) (j : Json) : Reading (List String) :=
  j.readList (fun _ => Json.readText) depth

namespace ChangeSet

def empty : ChangeSet := ⟨"", none, [], none, [], []⟩

def fields : List (RecordField ChangeSet) :=
  [⟨"id", fun _ j => do let s ← j.readText; return fun c => { c with id := s }⟩,
   ⟨"author", fun _ j => do
      let s ← j.readOptional Json.readText
      return fun c => { c with author := s }⟩,
   ⟨"validCheckSums", fun depth j => do
      let sums ← j.readTextList depth
      return fun c => { c with validCheckSums := sums }⟩,
   ⟨"preconditions", fun depth j => do
      let p ← j.readOptional (Preconditions.read depth)
      return fun c => { c with preconditions := p }⟩,
   ⟨"dbms", fun depth j => do
      let names ← j.readTextList depth
      return fun c => { c with dbms := names }⟩,
   ⟨"changes", fun depth j => do
      let changes ← j.readList Change.read depth
      return fun c => { c with changes := changes }⟩]

def read : JsonReader ChangeSet := Json.readRecord fields empty

end ChangeSet

namespace Changelog

def empty : Changelog := ⟨none, "", []⟩

def fields : List (RecordField Changelog) :=
  [⟨"logicalFilePath", fun _ j => do
      let s ← j.readOptional Json.readText
      return fun c => { c with logicalFilePath := s }⟩,
   ⟨"physicalFilePath", fun _ j => do
      let s ← j.readText
      return fun c => { c with physicalFilePath := s }⟩,
   ⟨"changeSets", fun depth j => do
      let sets ← j.readList ChangeSet.read depth
      return fun c => { c with changeSets := sets }⟩]

def read : JsonReader Changelog := Json.readRecord fields empty

/-- The changelog that a text holds. -/
def ofText (s : String) : Reading Changelog := (JsonDocument.ofText s).read read

end Changelog

end MigrationAudit
