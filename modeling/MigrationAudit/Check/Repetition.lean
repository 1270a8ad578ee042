import MigrationAudit.Check.Basic
import MigrationAudit.Memory.Basic

/-!
# What came before

Nothing may be declared twice in a session: no index on the columns of another, no change set under
the identifier of another in the same changelog, and no table is filled from two changelogs.  Each
of these checks says what it finds and what is to be remembered.
-/

namespace MigrationAudit.Check

/-- The key of the index that a change creates. -/
def indexKey (c : Change) : String :=
  Indexes.keyOf ((c.text? .tableName).getD "null") (c.columns.filterMap (·.name?))

def duplicatedIndex (place : ChangePlace) (memory : Memory) : List Issue × Memory :=
  let c := place.change
  match c.element with
  | .createIndex =>
    let name := (c.text? .indexName).getD "null"
    match memory.indexes.owner? (indexKey c) with
    | some owner => (onChange place (some .name) (some (.duplicatedIndex name owner)), memory)
    | none => ([], { memory with indexes := memory.indexes.reserve name (indexKey c) })
  | .dropIndex =>
    match c.text? .indexName with
    | some name => ([], { memory with indexes := memory.indexes.release name })
    | none => ([], memory)
  | _ => ([], memory)

/-- The table that a change inserts into. -/
def insertedTable? (c : Change) : Option String :=
  if c.element = .insert then c.text? .tableName else none

def insertedElsewhere (place : ChangePlace) (memory : Memory) : List Issue × Memory :=
  match insertedTable? place.change with
  | none => ([], memory)
  | some table =>
    match memory.inserters.get? table with
    | none =>
      ([], { memory with inserters := memory.inserters.set table place.log.filePath })
    | some owner =>
      (onChange place (some .name) <|
        causeIf (owner != place.log.filePath) (.insertedElsewhere table owner), memory)

/-- What a change set is known by in a session. -/
def setKey (place : SetPlace) : Option String × String :=
  (place.log.logicalFilePath, place.changeSet.id)

def duplicatedSet (place : SetPlace) (memory : Memory) : List Issue × Memory :=
  let file := place.log.physicalFilePath
  match memory.declarers.get? (setKey place) with
  | none => ([], { memory with declarers := memory.declarers.set (setKey place) file })
  | some first =>
    let cause := if first = file then Cause.duplicatedInFile place.changeSet.id
      else .duplicatedAcrossFiles place.changeSet.id first
    ([Issue.ofSet place (some "id") cause], memory)

end MigrationAudit.Check
