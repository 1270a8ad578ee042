import MigrationAudit.Check.Budget
import MigrationAudit.Check.ColumnDeclaration
import MigrationAudit.Check.Completeness
import MigrationAudit.Check.Dependency
import MigrationAudit.Check.LogicalPath
import MigrationAudit.Check.Naming
import MigrationAudit.Check.NotNull
import MigrationAudit.Check.Portability
import MigrationAudit.Check.Repetition
import MigrationAudit.Session.Policy

/-!
# The checks of a session

Every change goes through the checks that apply to its element, every change set through the checks
of change sets, in the order in which they are listed.  Several checks may share a name; a name is
what settings leave out.
-/

namespace MigrationAudit

/-- Whether a check looks at one change alone or at what came before it as well. -/
inductive Scope where
  | single | session
  deriving DecidableEq, Repr

inductive ChangeCheck where
  | filtered
  | nonPortable
  | lowerCase
  | oracleNames
  | columns
  | longVarchar
  | nullableTenant
  | notNullWithoutDefault
  | rowBudget
  | untypedValues
  | sequenceAlteration
  | baseTableLocation
  | standardType
  | modifiedToLob
  | numericPrecision
  | lobDimension
  | referredColumn
  | duplicatedIndex
  | keyBudget
  | sequenceName
  | sequence
  | droppedTwice
  | copiedColumn
  | insertedElsewhere
  | insertWithoutValue
  | nullableUnique
  | replacedView
  deriving DecidableEq, Repr

namespace ChangeCheck

/-- The checks in their order. -/
def all : List ChangeCheck :=
  [.filtered, .nonPortable, .lowerCase, .oracleNames, .columns, .longVarchar, .nullableTenant,
   .notNullWithoutDefault, .rowBudget, .untypedValues, .sequenceAlteration, .baseTableLocation,
   .standardType, .modifiedToLob, .numericPrecision, .lobDimension, .referredColumn,
   .duplicatedIndex, .keyBudget, .sequenceName, .sequence, .droppedTwice, .copiedColumn,
   .insertedElsewhere, .insertWithoutValue, .nullableUnique, .replacedView]

def name : ChangeCheck → String
  | .filtered => "filterChanges"
  | .nonPortable | .sequenceAlteration | .baseTableLocation => "notPermitted"
  | .lowerCase => "lowerCase"
  | .oracleNames => "oracleLength"
  | .columns => "columns"
  | .longVarchar => "oracleCLOB"
  | .nullableTenant => "tenantIdNotNull"
  | .notNullWithoutDefault => "notNullConstraint"
  | .rowBudget => "tableSize"
  | .untypedValues => "value"
  | .standardType => "sql99Datatype"
  | .modifiedToLob => "oracleModifyDataType"
  | .numericPrecision => "numericType"
  | .lobDimension => "lobType"
  | .referredColumn => "columnConstraints"
  | .duplicatedIndex => "duplicatedIndex"
  | .keyBudget => "createIndex"
  | .sequenceName => "range"
  | .sequence => "sequence"
  | .droppedTwice => "dropColumnChange"
  | .copiedColumn => "copyColumn"
  | .insertedElsewhere => "insertDataChange"
  | .insertWithoutValue => "insertColumnsChange"
  | .nullableUnique => "addUnique"
  | .replacedView => "replaceView"

def scope : ChangeCheck → Scope
  | .duplicatedIndex | .insertedElsewhere => .session
  | _ => .single

/-- The elements that a check applies to, special cases of them included; none means all. -/
def elements? : ChangeCheck → Option (List Element)
  | .filtered | .nonPortable | .lowerCase | .oracleNames => none
  | .columns => some [.addColumn, .createTable, .createIndex, .dropColumn]
  | .longVarchar => some [.addColumn, .createTable, .resizeDataType]
  | .nullableTenant => some [.addColumn, .createTable]
  | .notNullWithoutDefault => some [.addColumn, .addNotNullConstraint]
  | .rowBudget => some [.addColumn, .createTable, .modifyDataType]
  | .untypedValues => some [.addColumn, .createTable, .insert]
  | .sequenceAlteration => some [.alterSequence]
  | .baseTableLocation => some [.dropAllForeignKeyConstraints]
  | .standardType | .modifiedToLob | .numericPrecision | .lobDimension => some [.modifyDataType]
  | .referredColumn => some [.modifyDataType, .renameColumn]
  | .duplicatedIndex => some [.createIndex, .dropIndex]
  | .keyBudget => some [.createIndex]
  | .sequenceName | .sequence => some [.createSequence]
  | .droppedTwice => some [.dropColumn]
  | .copiedColumn => some [.copyColumn]
  | .insertedElsewhere | .insertWithoutValue => some [.insert]
  | .nullableUnique => some [.addUniqueConstraint]
  | .replacedView => some [.createView]

/-- Only the change into a large object concerns an element without its special cases. -/
def appliesTo (check : ChangeCheck) (e : Element) : Bool :=
  match check with
  | .modifiedToLob => e == .modifyDataType
  | check => check.elements?.all fun es => es.any e.isA

/-- What a check finds with a change that has been replayed, and what is remembered after it. -/
def run (check : ChangeCheck) (policy : Policy) (store : Store) (place : ChangePlace)
    (memory : Memory) : Findings × Memory :=
  let limits := policy.limits
  let forgetful (found : Findings) : Findings × Memory := (found, memory)
  let total (found : List Issue × Memory) : Findings × Memory := (.ok found.1, found.2)
  match check with
  | .filtered => forgetful (.ok (Check.filtered policy.filter place))
  | .nonPortable =>
    forgetful (Check.notPermitted (Check.labels Check.nonPortableAttributes) place)
  | .lowerCase => forgetful (Check.lowerCase (Check.labels Check.lowerCaseAttributes) place)
  | .oracleNames =>
    forgetful
      (Check.nameLengths 0 limits.oracleIdentifierLength (Check.labels Check.oracleAttributes)
        place)
  | .columns =>
    forgetful
      (Check.columns ⟨limits.minNameLength, limits.maxNameLength, limits.columnMaxPrecision⟩ place)
  | .longVarchar => forgetful (Check.longVarchar limits.oracleVarcharLength place)
  | .nullableTenant => forgetful (.ok (Check.nullableTenant place))
  | .notNullWithoutDefault => forgetful (.ok (Check.notNullWithoutDefault place))
  | .rowBudget => forgetful (Check.rowBudget limits.rowSizeLimit store place)
  | .untypedValues =>
    forgetful (.ok (if policy.typedValues then Check.untypedValues place else []))
  | .sequenceAlteration =>
    forgetful (Check.notPermitted (Check.labels Check.sequenceAlterationAttributes) place)
  | .baseTableLocation =>
    forgetful (Check.notPermitted (Check.labels Check.baseTableLocationAttributes) place)
  | .standardType => forgetful (Check.newType .standardType place)
  | .modifiedToLob => forgetful (.ok (Check.modifiedToLob place))
  | .numericPrecision =>
    forgetful (Check.newType (.numericPrecision limits.numericMaxPrecision) place)
  | .lobDimension => forgetful (Check.newType .lobDimension place)
  | .referredColumn => forgetful (Check.referredColumn store place)
  | .duplicatedIndex => total (Check.duplicatedIndex place memory)
  | .keyBudget => forgetful (Check.keyBudget limits.indexKeyLimit store place)
  | .sequenceName =>
    forgetful
      (Check.nameLengths 1 limits.sequenceNameMaxLength [Attribute.sequenceName.label] place)
  | .sequence => forgetful (Check.sequence limits.sequenceStep place)
  | .droppedTwice => forgetful (.ok (Check.droppedTwice place))
  | .copiedColumn => forgetful (Check.copiedColumn place)
  | .insertedElsewhere => total (Check.insertedElsewhere place memory)
  | .insertWithoutValue => forgetful (.ok (Check.insertWithoutValue place))
  | .nullableUnique => forgetful (Check.nullableUnique store place)
  | .replacedView => forgetful (.ok (Check.replacedView place))

end ChangeCheck

inductive SetCheck where
  | logicalPath | duplicatedSet | checkSums
  deriving DecidableEq, Repr

namespace SetCheck

/-- The checks in their order. -/
def all : List SetCheck := [.logicalPath, .duplicatedSet, .checkSums]

def name : SetCheck → String
  | .logicalPath => "filePath"
  | .duplicatedSet => "duplicatedId"
  | .checkSums => "checksum"

def scope : SetCheck → Scope
  | .logicalPath | .duplicatedSet => .session
  | .checkSums => .single

/-- What a check finds with a change set, and what is remembered after it. -/
def run (check : SetCheck) (policy : Policy) (place : SetPlace) (memory : Memory) :
    List Issue × Memory :=
  match check with
  | .logicalPath =>
    match policy.expectedPath with
    | some expected => Check.logicalPath expected place.log memory
    | none => ([], memory)
  | .duplicatedSet => Check.duplicatedSet place memory
  | .checkSums => (Check.checkSums place, memory)

end SetCheck

/-- The scope of the first check with a name. -/
def scope? (name : String) : Option Scope :=
  ((ChangeCheck.all.map fun c => (c.name, c.scope)) ++
    SetCheck.all.map fun c => (c.name, c.scope)).lookup name

end MigrationAudit
