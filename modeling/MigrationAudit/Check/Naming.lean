import MigrationAudit.Check.Basic

/-!
# Names

Names are in lower case and of bounded length.  A field may hold a list of names; the length of each
is judged by itself, first all against the lower bound and then all against the upper one.
-/

namespace MigrationAudit.Check

/-- The attributes whose names have to be in lower case. -/
def lowerCaseAttributes : List Attribute :=
  [.tableName, .columnName, .baseColumnNames, .constraintName, .baseTableName,
   .referencedTableName, .columnNames, .sequenceName, .indexName, .newColumnName, .oldColumnName,
   .newSequenceName, .oldSequenceName]

/-- The attributes whose names have to fit into the identifiers of Oracle. -/
def oracleAttributes : List Attribute :=
  [.constraintName, .indexName, .baseColumnNames, .baseTableName, .referencedTableName, .tableName,
   .columnName, .sequenceName, .newColumnName, .oldColumnName, .newSequenceName, .oldSequenceName]

def lowerCase (fields : List String) (place : ChangePlace) : Findings :=
  onFields .lowerCase fields place

/-- The contexts of the names in a field. -/
def nameContexts (place : ChangePlace) (field : String) : Except Failure (List Context) := do
  let value ← place.change.lookup field
  return (value.toList.flatMap Text.names).map fun name =>
    .ofValue (.change place) field (some name)

def allNameContexts (place : ChangePlace) : List String → Except Failure (List Context)
  | [] => .ok []
  | field :: fields => do
    let contexts ← nameContexts place field
    let rest ← allNameContexts place fields
    return contexts ++ rest

/-- Every name in the fields has a length from `least` to `greatest`. -/
def nameLengths (least greatest : Nat) (fields : List String) (place : ChangePlace) : Findings := do
  let contexts ← allNameContexts place fields
  Binding.runAll
    (Binding.each (.minLength least) contexts ++ Binding.each (.maxLength greatest) contexts)

end MigrationAudit.Check
