import MigrationAudit.Memory.Ledger
import MigrationAudit.Text.Order

/-!
# Known indexes

An index is known by its name and by the key that says what it covers: a table and a set of columns.
One ledger holds the key of every name, another the name that owns a key.  A name that takes another
key gives up the one it had.
-/

namespace MigrationAudit

structure Indexes where
  keys : Ledger String String
  owners : Ledger String String
  deriving DecidableEq, Repr

namespace Indexes

def empty : Indexes := ⟨.empty, .empty⟩

/-- The key of an index on columns of a table, whatever the order of the columns. -/
def keyOf (table : String) (columns : List String) : String :=
  (Text.ordered columns).foldl (fun key column => key ++ "-" ++ column) table

def owner? (i : Indexes) (key : String) : Option String := i.owners.get? key

/-- The owners without that of the key that a name has. -/
def ownersWithout (i : Indexes) (name : String) : Ledger String String :=
  match i.keys.get? name with
  | some key => i.owners.erase key
  | none => i.owners

/-- The name takes the key. -/
def reserve (i : Indexes) (name key : String) : Indexes :=
  ⟨i.keys.set name key, (i.ownersWithout name).set key name⟩

/-- The key that a name has and would give up. -/
def key? (i : Indexes) (name : String) : Option String := i.keys.get? name

/-- The name gives up its key. -/
def release (i : Indexes) (name : String) : Indexes := ⟨i.keys.erase name, i.ownersWithout name⟩

/-- How many names have a key. -/
def size (i : Indexes) : Nat := i.keys.size

def isEmpty (i : Indexes) : Bool := i.keys.isEmpty

end Indexes

end MigrationAudit
