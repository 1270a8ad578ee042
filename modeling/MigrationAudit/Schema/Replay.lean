import MigrationAudit.Schema.Script
import MigrationAudit.Schema.Store

/-!
# Replaying changes

A schema is a store and the number of names drawn for it so far.  Edits run one after the other; a
change that fails leaves what its edits did before (`Schema.replay_schema`).  Names are drawn from
a naming, which says for every draw what name it yields.
-/

namespace MigrationAudit

/-- The name that each draw yields. -/
abbrev Naming := Nat → String

structure Schema where
  store : Store
  drawn : Nat
  deriving DecidableEq, Repr

namespace Schema

def empty : Schema := ⟨.empty, 0⟩

/-- A constraint under its declared name or under the next drawn one. -/
def nameConstraint (naming : Naming) (s : Schema) (kind : ConstraintKind) :
    Option String → Constraint
  | some name => ⟨kind, .declared name⟩
  | none => ⟨kind, .drawn (naming s.drawn)⟩

def detach (s : Schema) (table : String) (p : Constraint → Bool) : Schema :=
  { s with store := s.store.update (.table table) fun c =>
      { c with constraints := c.constraints.filter fun k => !p k } }

def updateColumn (s : Schema) (table column : String) (f : Column → Column) : Schema :=
  { s with store := s.store.update (.column table column) f }

def applyEdit (naming : Naming) (s : Schema) : Edit → Schema
  | .declare table column nullable declaration =>
    { s with store := s.store.put (.column table column) (.column
        { table, name := column, nullable, dataType := declaration.map Declaration.base,
          oldType := none, length := declaration.map Declaration.parameter, constraints := [] }) }
  | .renameTable old new =>
    { s with store := s.store.update (.table old) fun c => { c with table := new } }
  | .renameColumn table old new => s.updateColumn table old fun c => { c with name := new }
  | .setNullable table column nullable => s.updateColumn table column fun c => { c with nullable }
  | .setType table column declaration =>
    s.updateColumn table column fun c =>
      { c.setType (declaration.map Declaration.base) with
        length := declaration.map Declaration.parameter }
  | .dropTable table => { s with store := s.store.removeMatching (.table table) }
  | .dropColumn table column => { s with store := s.store.removeMatching (.column table column) }
  | .attach table column name kind =>
    if (s.store.column? table column).isNone then s
    else
      let constraint := s.nameConstraint naming kind name
      let t := s.updateColumn table column fun c =>
        { c with constraints := c.constraints ++ [constraint] }
      if name.isNone then { t with drawn := t.drawn + 1 } else t
  | .detachNamed table name => s.detach table fun k => k.name.text == name
  | .detachPrimaryKeys table name =>
    s.detach table fun k => k.kind == .primaryKey || some k.name.text == name
  | .detachForeignKeys table => s.detach table fun k => k.kind == .foreignKey

def applyEdits (naming : Naming) (s : Schema) (edits : List Edit) : Schema :=
  edits.foldl (applyEdit naming) s

/-- The schema after a script, and the failure that cut the script short. -/
def run (naming : Naming) (s : Schema) (script : Script) : Schema × Option Failure :=
  (s.applyEdits naming script.edits, script.failure)

/-- The schema after a change, and the failure that cut the change short. -/
def replay (naming : Naming) (s : Schema) (c : Change) : Schema × Option Failure :=
  s.run naming c.script

/-- The schema after changes, whatever failed among them. -/
def replayAll (naming : Naming) (s : Schema) (changes : List Change) : Schema :=
  changes.foldl (fun s c => (s.replay naming c).1) s

@[simp]
theorem replay_schema (naming : Naming) (s : Schema) (c : Change) :
    (s.replay naming c).1 = s.applyEdits naming c.script.edits := rfl

/-- Whether a change fails does not depend on the schema. -/
@[simp]
theorem replay_failure (naming : Naming) (s : Schema) (c : Change) :
    (s.replay naming c).2 = c.script.failure := rfl

theorem applyEdits_append (naming : Naming) (s : Schema) (es fs : List Edit) :
    s.applyEdits naming (es ++ fs) = (s.applyEdits naming es).applyEdits naming fs := by
  simp [applyEdits]

end Schema

end MigrationAudit
