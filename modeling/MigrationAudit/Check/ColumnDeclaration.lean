import MigrationAudit.Calendar
import MigrationAudit.Check.Basic

/-!
# Declarations of columns

A nested column has a name in lower case and of bounded length, a standard type with a precision or
dimension where it needs one, and no value that belongs to one database or one row.  The names of
its inline constraints are judged like its own.  Values that look like flags, dates or numbers
should be written under an attribute of their kind.
-/

namespace MigrationAudit.Check

open Text

/-- The attribute that a default of the declared type is to be written under. -/
def typedDefault? (declaration : String) : Option String :=
  let base := Declaration.base (upper (trim declaration))
  if base = "BOOLEAN" then some "defaultBooleanValue"
  else if base ∈ ["INTEGER", "SMALLINT", "BIGINT", "REAL", "DOUBLE PRECISION", "DECIMAL", "NUMERIC",
      "FLOAT"] then some "defaultNumericValue"
  else if base ∈ ["TIMESTAMP", "DATE"] then some "defaultDateValue"
  else none

/-- The values that a declaration may not bring. -/
def valueAttributes : List Attribute :=
  [.computed, .value, .valueNumeric, .valueDate, .valueBoolean, .valueBlobFile, .valueClobFile,
   .valueComputed, .defaultValueComputed]

/-- The bounds on the declarations of columns. -/
structure ColumnBounds where
  leastLength : Nat
  greatestLength : Nat
  greatestPrecision : Nat

/-- The context to which those of nested columns belong. -/
def columnsContext (place : ChangePlace) : Context := .ofSubject (.change place) "columns"

/-- A value of a nested column. -/
def columnContext (place : ChangePlace) (c : NestedColumn) (a : Attribute) : Context :=
  .child (columnsContext place) (.column c) a.label (c.text? a)

/-- A value of inline constraints, under a label. -/
def constraintContext (place : ChangePlace) (k : InlineConstraints) (label : String)
    (a : Attribute) : Context :=
  .child (columnsContext place) (.constraints k) label (k.text? a)

def constraintBindings (bounds : ColumnBounds) (place : ChangePlace) (k : InlineConstraints) :
    List Binding :=
  let names := [Attribute.uniqueConstraintName, .foreignKeyName, .primaryKeyName].map fun a =>
    constraintContext place k a.label a
  Binding.each .lowerCase names ++
  Binding.each (.minLength bounds.leastLength) names ++
  Binding.each (.maxLength bounds.greatestLength) names ++
  Binding.each .notPermitted
    [constraintContext place k "privateKeyTablespace" .primaryKeyTablespace,
     constraintContext place k "referencedTableCatalogName" .referencedTableCatalogName,
     constraintContext place k "referencedTableSchemaName" .referencedTableSchemaName]

def columnBindings (bounds : ColumnBounds) (place : ChangePlace) (c : NestedColumn) :
    List Binding :=
  let name := columnContext place c .name
  let type := columnContext place c .type
  [⟨.lowerCase, name⟩, ⟨.maxLength bounds.greatestLength, name⟩,
    ⟨.minLength bounds.leastLength, name⟩, ⟨.standardType, type⟩] ++
  Binding.each .notPermitted (valueAttributes.map (columnContext place c)) ++
  [⟨.numericPrecision bounds.greatestPrecision, type⟩, ⟨.lobDimension, type⟩] ++
  c.constraints?.toList.flatMap (constraintBindings bounds place)

/-- A default that has an attribute of its own. -/
def defaultCause? (c : NestedColumn) : Option Cause :=
  if (c.text? .defaultValue).isSome then
    ((c.text? .type).bind typedDefault?).map Cause.typedDefault
  else none

/-- The untyped defaults come first, then what the rules find column by column. -/
def columns (bounds : ColumnBounds) (place : ChangePlace) : Findings := do
  let found ← Binding.runAll (place.change.columns.flatMap (columnBindings bounds place))
  return (place.change.columns.filterMap defaultCause?).map
    (Issue.ofChange place (some Attribute.defaultValue.label)) ++ found

/-- An optional sign, digits, and perhaps a point with more digits. -/
def isDecimal (s : String) : Bool :=
  let cs := match s.toList with
    | '+' :: cs => cs
    | '-' :: cs => cs
    | cs => cs
  let whole := cs.takeWhile Char.isDigit
  !whole.isEmpty &&
    match cs.dropWhile Char.isDigit with
    | [] => true
    | '.' :: places => !places.isEmpty && places.all Char.isDigit
    | _ => false

/-- Texts of more than ten bytes are read as dates with a time. -/
def isDateValue (s : String) : Bool :=
  if 10 < s.utf8ByteSize then Calendar.isDateTime s else Calendar.isDate s

/-- The kind that a text looks like. -/
def typedKind? (s : String) : Option String :=
  if sameAsciiCase s "true" || sameAsciiCase s "false" then some "Boolean"
  else if isDateValue s then some "Date"
  else if isDecimal s then some "Numeric"
  else none

/-- The column that says to which tenant a row belongs. -/
def tenantColumn : String := "tenant_id"

/-- The value of a column, else its default, with the label it is written under. -/
def untypedValue? (c : NestedColumn) : Option (String × String) :=
  ((c.text? .value).map fun s => (Attribute.value.label, s)).or
    ((c.text? .defaultValue).map fun s => (Attribute.defaultValue.label, s))

/-- A text that would be better written under an attribute of its kind. -/
def untypedCause? (table : String) (c : NestedColumn) : Option Cause := do
  let (field, value) ← untypedValue? c
  if c.name? = some tenantColumn then none
  else
    let kind ← typedKind? value
    return .untypedValue field kind table (c.name?.getD "null")

def declaresOrInserts : Element → Bool
  | .insert | .createTable | .addColumn => true
  | _ => false

def untypedValues (place : ChangePlace) : List Issue :=
  if declaresOrInserts place.change.element then
    (place.change.columns.filterMap (untypedCause? (place.change.table?.getD "null"))).map
      (Issue.ofChange place (some Attribute.name.label))
  else []

end MigrationAudit.Check
