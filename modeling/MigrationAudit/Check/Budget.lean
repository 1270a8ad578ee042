import MigrationAudit.Check.Basic
import MigrationAudit.Schema.Script
import MigrationAudit.Schema.Store
import MigrationAudit.Storage.Size

/-!
# Budgets of bytes

The known columns of a table fit into a row, the columns of an index into a key.  Sums are taken in
the order of the columns, and the first column that exceeds the limit of a row is the one to blame.
-/

namespace MigrationAudit.Check

open Storage

/-- The first column with which the sizes, added to `total`, exceed the limit. -/
def overflow? (limit total : Nat) : List Column → Except Failure (Option Column)
  | [] => .ok none
  | c :: cs => do
    let size ← rowSize c
    let sum := saturatingAdd total size
    if limit < sum then return some c else overflow? limit sum cs

/-- The row of the table that the change works on. -/
def rowBudget (limit : Nat) (store : Store) (place : ChangePlace) : Findings :=
  match place.change.table? with
  | none => .ok []
  | some table => do
    let column ← overflow? limit 0 (store.columns (.table table))
    return (column.toList.map fun c => Cause.rowTooLarge table c.name limit).map
      (Issue.ofChange place (some "column"))

/-- The size of a key of columns, added to `total`. -/
def keyTotal (total : Nat) : List Column → Except Failure Nat
  | [] => .ok total
  | c :: cs => do
    let size ← keySize c
    keyTotal (saturatingAdd total size) cs

/-- The known columns that an index names, once for each time it names them. -/
def indexedColumns (store : Store) (table : String) (c : Change) : List Column :=
  (c.columns.filterMap (·.name?)).filterMap (store.column? table)

def keyBudget (limit : Nat) (store : Store) (place : ChangePlace) : Findings :=
  let c := place.change
  if c.element = .createIndex then do
    let table ← c.require .tableName
    let total ← keyTotal 0 (indexedColumns store table c)
    return if total ≤ limit then []
      else [columnIssue place none (.keyTooLarge (c.text? .indexName) table limit)]
  else .ok []

end MigrationAudit.Check
