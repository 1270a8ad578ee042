import MigrationAudit.Schema.Record

/-!
# Identities and queries

A column is stored under its table and name, a constraint under its name.  A query asks for one
column or for all columns of a table, always with exact names; no query finds a constraint
(`matches_constraint`).
-/

namespace MigrationAudit

inductive Identity where
  | column (table column : String)
  | constraint (name : String)
  deriving DecidableEq, Repr

def Identity.render : Identity → String
  | .column t c => t ++ "." ++ c
  | .constraint n => n

inductive Query where
  | column (table column : String)
  | table (table : String)
  deriving DecidableEq, Repr

def Query.render : Query → String
  | .column t c => t ++ "." ++ c
  | .table t => t

def Column.identity (c : Column) : Identity := .column c.table c.name

def Identity.matches : Identity → Query → Bool
  | .column t c, .column t' c' => t == t' && c == c'
  | .column t _, .table t' => t == t'
  | .constraint _, _ => false

@[simp]
theorem matches_constraint (name : String) (q : Query) :
    (Identity.constraint name).matches q = false := rfl

theorem matches_column_iff {id : Identity} {t c : String} :
    id.matches (.column t c) = true ↔ id = .column t c := by
  cases id <;> simp [Identity.matches]

end MigrationAudit
