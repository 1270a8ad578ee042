import MigrationAudit.Declaration
import MigrationAudit.Schema.Record
import MigrationAudit.Text.Case

/-!
# Bytes of columns

How many bytes a column takes in a row and in the key of an index, by base type and declared length.
Sizes are computed in 64 bits: a sum that does not fit is the largest number that does.  A type that
is not known takes nothing.
-/

namespace MigrationAudit.Storage

open Text

/-- The classes of types that are stored alike. -/
inductive StoredType where
  | small | integer | long | decimal | character | varying | date | time | timestamp | lob
  deriving DecidableEq, Repr

def StoredType.ofName? (name : String) : Option StoredType :=
  [("TINYINT", .small), ("BOOLEAN", .small), ("SMALLINT", .small), ("INTEGER", .integer),
    ("BIGINT", .long), ("FLOAT", .long), ("DOUBLE", .long), ("DECIMAL", .decimal),
    ("NUMBER", .decimal), ("CHAR", .character), ("NCHAR", .character), ("VARCHAR", .varying),
    ("NVARCHAR", .varying), ("DATE", .date), ("TIME", .time), ("DATETIME", .timestamp),
    ("TIMESTAMP", .timestamp), ("BLOB", .lob), ("CLOB", .lob), ("NCLOB", .lob)].lookup (upper name)

/-- The sum in 64 bits. -/
def saturatingAdd (a b : Nat) : Nat := min (a + b) maxWord

/-- The greatest lengths of the bands of large objects, each with the size of its descriptor. -/
def lobBands : List (Nat × Nat) :=
  [(1024, 73), (8192, 97), (65536, 121), (524000, 145), (4190000, 169), (134000000, 201),
    (536000000, 225), (1070000000, 257), (1470000000, 281), (2147483647, 317)]

def defaultLobLength : Nat := 1024

/-- The size of the descriptor of a large object; beyond the bands there is none. -/
def lobSize (length : Nat) : Nat := ((lobBands.find? (length ≤ ·.1)).map (·.2)).getD 0

/-- The greatest length of a varying text that stays in its row. -/
def inlineLimit : Nat := 24

/-- The length declared for a column, if it is more than blanks. -/
def declaredLength? (c : Column) : Option String :=
  (c.length.map trim).filter (· ≠ "")

/-- The number in a declared length. -/
def lengthOf (length : String) : Except Failure Nat := Declaration.number "type" length

/-- The size of a column in a row, by type and declared length. -/
def sizeInRow (type : StoredType) (length : Option String) : Except Failure Nat :=
  match type, length with
  | .small, _ => .ok 4
  | .integer, _ => .ok 6
  | .long, _ => .ok 10
  | .decimal, some s => do return saturatingAdd ((← Declaration.precision "type" s) / 2) 3
  | .decimal, none => .ok 5
  | .character, some s => do return saturatingAdd (← lengthOf s) 2
  | .character, none => .ok 3
  | .varying, some s => do
    let n ← lengthOf s
    return if inlineLimit < n then 29 else saturatingAdd n 5
  | .varying, none => .ok 6
  | .date, _ => .ok 6
  | .time, _ => .ok 5
  | .timestamp, some s => do return saturatingAdd (saturatingAdd (← lengthOf s) 1 / 2) 9
  | .timestamp, none => .ok 12
  | .lob, some s => do return lobSize (← lengthOf s)
  | .lob, none => .ok (lobSize defaultLobLength)

/-- The size of a column in a key: a varying text is there in full length. -/
def sizeInKey (type : StoredType) (length : Option String) : Except Failure Nat :=
  match type, length with
  | .varying, some s => do return saturatingAdd (← lengthOf s) 3
  | .varying, none => .ok 4
  | type, length => sizeInRow type length

def storedType? (c : Column) : Option StoredType := c.dataType.bind StoredType.ofName?

def rowSize (c : Column) : Except Failure Nat :=
  match storedType? c with
  | some type => sizeInRow type (declaredLength? c)
  | none => .ok 0

def keySize (c : Column) : Except Failure Nat :=
  match storedType? c with
  | some type => sizeInKey type (declaredLength? c)
  | none => .ok 0

end MigrationAudit.Storage
