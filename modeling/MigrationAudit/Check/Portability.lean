import MigrationAudit.Check.Basic
import MigrationAudit.Declaration
import MigrationAudit.Text.Case

/-!
# Portability

A change should work on every database: no attribute that binds it to one, no type outside the
standard, nothing that Oracle refuses and no feature that only some databases have.
-/

namespace MigrationAudit.Check

open Text

/-- The attributes that bind a change to one database. -/
def nonPortableAttributes : List Attribute :=
  [.catalogName, .schemaName, .baseTableCatalogName, .baseTableSchemaName,
   .referencedTableCatalogName, .referencedTableSchemaName, .defaultValueComputed]

/-- What an alteration of a sequence may not change. -/
def sequenceAlterationAttributes : List Attribute := [.startValue, .incrementBy]

/-- Where the base table of foreign keys lies. -/
def baseTableLocationAttributes : List Attribute := [.baseTableCatalogName, .baseTableSchemaName]

/-- None of the fields may have a value. -/
def notPermitted (fields : List String) (place : ChangePlace) : Findings :=
  onFields .notPermitted fields place

/-- A rule on the type that a column is changed to. -/
def newType (rule : Rule) (place : ChangePlace) : Findings :=
  onFields rule [Attribute.newDataType.label] place

/-- Whether a declaration is of a varying text longer than `greatest`. -/
def exceedsVarchar (greatest : Nat) (declaration : String) : Except Failure Bool :=
  if !sameAsciiCase (Declaration.base declaration) "varchar" then .ok false
  else
    let length := Declaration.parameter declaration
    if length = "" then .ok false
    else do
      let n ← Declaration.number "type" length
      return greatest < n

/-- One issue for every nested column that is declared as too long a varying text. -/
def longVarcharColumns (greatest : Nat) (place : ChangePlace) : List NestedColumn → Findings
  | [] => .ok []
  | c :: cs => do
    let long ← (c.text? .type).elim (.ok false) (exceedsVarchar greatest)
    let rest ← longVarcharColumns greatest place cs
    return if long then columnIssue place (some "value") (.longVarchar greatest) :: rest else rest

/-- Oracle allows only varying texts up to `greatest`. -/
def longVarchar (greatest : Nat) (place : ChangePlace) : Findings := do
  let issues ← longVarcharColumns greatest place place.change.columns
  match place.change.element, place.change.text? .newDataType with
  | .modifyDataType, some declaration | .resizeDataType, some declaration =>
    let long ← (exceedsVarchar greatest declaration).mapError
      (Failure.atField Attribute.newDataType.label)
    return issues ++ onChange place (some .newDataType) (causeIf long (.longVarchar greatest))
  | _, _ => return issues

/-- Oracle cannot turn a column into a large object. -/
def modifiedToLob (place : ChangePlace) : List Issue :=
  match place.change.element, place.change.text? .newDataType with
  | .modifyDataType, some declaration =>
    let base := Declaration.base (upper declaration)
    if base = "CLOB" ∨ base = "BLOB"
      then [columnIssue place (some "modifyDataType") (.modifiedToLob base)] else []
  | _, _ => []

/-- The base of a declaration in upper case, nothing if there is none. -/
def upperBase (declaration : Option String) : String :=
  declaration.elim "" fun s => upper (Declaration.base s)

/-- What is wrong with copying values of one base type into a column of another, and with which of
the two. -/
def conversion? (source target : String) : Option (Attribute × Cause) :=
  if target = "CLOB" then
    if source ∈ clobSources then none else some (.fromType, .notConvertibleToClob source)
  else if target = "BLOB" ∨ target = "NCLOB" then
    if source = target then none else some (.toType, .notConvertible source target)
  else none

/-- A column is copied between standard types that convert. -/
def copiedColumn (place : ChangePlace) : Findings := do
  let issues ← onFields .standardType (labels [.toType, .fromType]) place
  if place.change.element = .copyColumn then
    let source := upperBase (place.change.text? .fromType)
    let target := upperBase (place.change.text? .toType)
    return issues ++ (conversion? source target).toList.map fun (a, cause) =>
      Issue.ofChange place (some a.label) cause
  else return issues

/-- A view is not created by replacing another. -/
def replacedView (place : ChangePlace) : List Issue :=
  onChange place (some .replaceIfExists) <|
    causeIf (place.change.element = .createView && (place.change.value? .replaceIfExists).isSome)
      .replacedView

end MigrationAudit.Check
