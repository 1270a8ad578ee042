/-!
# Records of the simulated schema

What is known of a column: its table and name, whether it is nullable, its present and former base
type, the parameter of its type and the constraints on it.  A constraint that is declared without a
name is given a drawn one; a drawn name is remembered as drawn, but counts as a name like any other.
-/

namespace MigrationAudit

inductive ConstraintKind where
  | primaryKey | foreignKey | index
  deriving DecidableEq, Repr

def ConstraintKind.label : ConstraintKind → String
  | primaryKey => "primary_key"
  | foreignKey => "foreign_key"
  | index => "index"

inductive ConstraintName where
  | declared (text : String)
  | drawn (text : String)
  deriving DecidableEq, Repr

namespace ConstraintName

def text : ConstraintName → String
  | declared s => s
  | drawn s => s

/-- The same name with one text for all drawn names. -/
def masked : ConstraintName → ConstraintName
  | declared s => declared s
  | drawn _ => drawn "<generated>"

end ConstraintName

structure Constraint where
  kind : ConstraintKind
  name : ConstraintName
  deriving DecidableEq, Repr

namespace Constraint

def render (c : Constraint) : String := c.kind.label ++ " " ++ c.name.text

def masked (c : Constraint) : Constraint := { c with name := c.name.masked }

end Constraint

/-- What is known of a column. -/
structure Column where
  table : String
  name : String
  nullable : Bool
  dataType : Option String
  oldType : Option String
  length : Option String
  constraints : List Constraint
  deriving DecidableEq, Repr

namespace Column

/-- A column of which nothing but its identity is known is nullable. -/
def fresh (table name : String) : Column := ⟨table, name, true, none, none, none, []⟩

/-- The present type becomes the former one. -/
def setType (c : Column) (dataType : Option String) : Column :=
  { c with oldType := c.dataType, dataType }

def masked (c : Column) : Column := { c with constraints := c.constraints.map Constraint.masked }

end Column

inductive Entity where
  | column (c : Column)
  | constraint (c : Constraint)
  deriving DecidableEq, Repr

namespace Entity

def column? : Entity → Option Column
  | column c => some c
  | constraint _ => none

def constraint? : Entity → Option Constraint
  | column _ => none
  | constraint c => some c

end Entity

end MigrationAudit
