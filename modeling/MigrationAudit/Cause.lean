import MigrationAudit.Changelog.Element
import MigrationAudit.Schema.Record
import MigrationAudit.Text.Pieces

/-!
# What an issue is about

Everything that an audit can find fault with is a constructor with its particulars, and
`Cause.message` is its wording.  A message mentions constraints by kind and name, so causes with one
text for all drawn names (`Cause.masked`) are what two audits have in common that drew different
names.
-/

namespace MigrationAudit

inductive Cause where
  -- single values
  | required (field : String)
  | notPermitted (field : String)
  | unequal (value : Option String) (expected : String)
  | tooShort (value : Option String) (least : Nat)
  | tooLong (value : Option String) (greatest : Nat)
  | notLowerCase (value : Option String)
  | nonStandardType (value : Option String)
  | noPrecision (field : String)
  | excessivePrecision (value : Option String) (greatest : Nat)
  | noDimension (field : String) (value : Option String)
  -- elements and attributes of a change
  | excludedElement (element : Element)
  | notIncludedElement (element : Element)
  | typedDefault (replacement : String)
  | longVarchar (greatest : Nat)
  | untypedValue (field kind table column : String)
  | modifiedToLob (base : String)
  | notConvertibleToClob (source : String)
  | notConvertible (source target : String)
  | columnNameBesideColumns
  | replacedView
  | insertWithoutValue (table : String)
  -- null values
  | notNullWithoutDefault
  | notNullColumnWithoutDefault
  | nullableTenant
  | nullableUnique (name : Option String) (columns : List String) (table : String)
  -- the simulated schema
  | rowTooLarge (table column : String) (limit : Nat)
  | keyTooLarge (index : Option String) (table : String) (limit : Nat)
  | renamedWhileReferred (table column : String) (constraints : List Constraint)
  | modifiedWhileReferred (table column : String) (constraints : List Constraint)
  -- the memory of a session
  | duplicatedIndex (name owner : String)
  | insertedElsewhere (table owner : String)
  | duplicatedInFile (id : String)
  | duplicatedAcrossFiles (id first : String)
  -- change sets
  | permissiveCheckSum (sum : String)
  | noIssueInId
  | noProgressiveNumber
  | noAuthor
  | noLogicalPath
  | unexpectedLogicalPath
  /-- The finding of a check that is not part of the library. -/
  | other (text : String)
  deriving DecidableEq, Repr

/-- The types from which a value converts to a CLOB. -/
def clobSources : List String := ["CHAR", "VARCHAR", "NCHAR", "NVARCHAR", "CLOB", "NCLOB", "NUMBER"]

namespace Cause

/-- An absent value is shown as null. -/
def shown (value : Option String) : String := value.getD "null"

def listed (names : List String) : String := ", ".intercalate names

def listedConstraints (constraints : List Constraint) : String :=
  listed (constraints.map Constraint.render)

/-- A name in quotes after a blank, or nothing. -/
def quoted (name : Option String) : String := name.elim "" fun s => s!" '{s}'"

def message : Cause → String
  | required field => s!"{field} is a required attribute"
  | notPermitted field => s!"{field} is not allowed because is not portable"
  | unequal value expected =>
    shown value ++ s!" does not matches the expected value {expected}"
  | tooShort value least => shown value ++ s!" is shorter than {least}"
  | tooLong value greatest => shown value ++ s!" exceeds max length {greatest}"
  | notLowerCase value => shown value ++ " must be lowercase"
  | nonStandardType value => shown value ++ " isn't one of SQL-99 standard types"
  | noPrecision field => s!"Column {field} NUMERIC has no defined precision"
  | excessivePrecision value greatest =>
    shown value ++ s!" has greater precision than {greatest} allowed"
  | noDimension field value =>
    s!"Column with {field} " ++ shown value ++ " has no defined dimension"
  | excludedElement element =>
    "The change " ++ element.name ++ " is not allowed by the exclusion filter"
  | notIncludedElement element =>
    "The change " ++ element.name ++ " is not allowed by the inclusion filter"
  | typedDefault replacement =>
    s!"defaultValue is not allowed because is not portable. Replace it with {replacement}"
  | longVarchar greatest =>
    s!"Oracle 11g not allows column of type VARCHAR greater than {greatest}, " ++
      "a CLOB must be used instead of that"
  | untypedValue field kind table column =>
    s!"Use the specific {field}{kind} attribute for {table}.{column}"
  | modifiedToLob base =>
    s!"Oracle 11g not allows modify data type to {base}. " ++
      "If you are trying to resize the column use resizeDataType instead of modifyDataType. " ++
      "If not, the correct way to proceed is add a new column and then move data to the new column"
  | notConvertibleToClob source =>
    s!"{source} isn't one of types permitted by Oracle TO_CLOB function. " ++
      "Use one of these: [" ++ listed clobSources ++ "]"
  | notConvertible source target => s!"Copy column cannot convert {source} into {target}."
  | columnNameBesideColumns =>
    "Drop column does not permit columnName attribute and nested columns " ++
      "to be declared at the same time"
  | replacedView => "Create view cannot contain attribute replaceIfExists"
  | insertWithoutValue table =>
    s!"Insert data does not permit any column of table {table} to be declared without a value"
  | notNullWithoutDefault =>
    "You can not add not nullable constraint without a default value."
  | notNullColumnWithoutDefault =>
    "You can not add not nullable columns without a default value."
  | nullableTenant => "tenant_id column must be not nullable"
  | nullableUnique name columns table =>
    "Unique constraint" ++ quoted name ++ " can not include nullable columns " ++ listed columns ++
      s!" for table '{table}'."
  | rowTooLarge table column limit =>
    s!"Table {table} with column {column} exceeds the table limit of {limit}."
  | keyTooLarge index table limit =>
    "Key columns for index" ++ quoted index ++
      s!" of table {table} exceed the index key size limit {limit}."
  | renamedWhileReferred table column constraints =>
    s!"Can not rename column {table}.{column} because is referred by " ++
      listedConstraints constraints ++
      ". Remove constraints before rename and then recreate them."
  | modifiedWhileReferred table column constraints =>
    s!"Can not modify column type {table}.{column} because is referred by " ++
      listedConstraints constraints ++
      ". Remove constraints before modify and then recreate them."
  | duplicatedIndex name owner => s!"The index {name} is already defined by {owner}"
  | insertedElsewhere table owner => s!"The table name {table} is already used in {owner} project"
  | duplicatedInFile id => s!"the changeSet {id} is already defined in the same file"
  | duplicatedAcrossFiles id first => s!"the changeSet {id} is already defined in {first}"
  | permissiveCheckSum sum => s!"the {sum} validateCheckSum is not allowed"
  | noIssueInId => "The changeset id does not matches the issue pattern"
  | noProgressiveNumber =>
    "The changeset id does not end with progressive number after the issue id"
  | noAuthor => "The author is required"
  | noLogicalPath => "The logicalFilePath attribute is required"
  | unexpectedLogicalPath =>
    "The logicalFilePath attribute does not match the artifactId of the project"
  | other text => text

/-- The cause with one text for all drawn names. -/
def masked : Cause → Cause
  | renamedWhileReferred table column constraints =>
    renamedWhileReferred table column (constraints.map Constraint.masked)
  | modifiedWhileReferred table column constraints =>
    modifiedWhileReferred table column (constraints.map Constraint.masked)
  | cause => cause

end Cause

end MigrationAudit
