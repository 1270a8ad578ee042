import MigrationAudit.Failure
import MigrationAudit.Text.Blank
import MigrationAudit.Text.Digit
import MigrationAudit.Text.Order
import MigrationAudit.Text.Pieces

/-!
# Limits

The bounds that checks judge by.  A parameter, addressed as the name of a check and of one of its
settings with a point between, replaces one of them.  Parameters are applied in the order of their
addresses, so the first address that is at fault is the one that is reported.
-/

namespace MigrationAudit

structure Limits where
  minNameLength : Nat
  maxNameLength : Nat
  columnMaxPrecision : Nat
  sequenceNameMaxLength : Nat
  numericMaxPrecision : Nat
  rowSizeLimit : Nat
  indexKeyLimit : Nat
  oracleIdentifierLength : Nat
  oracleVarcharLength : Nat
  sequenceStep : String
  filePathSuffix : Option String
  deriving DecidableEq, Repr

/-- Values by address; of an address that occurs more than once the last value counts. -/
abbrev Parameters := List (String × String)

namespace Parameters

def value? (ps : Parameters) (address : String) : Option String :=
  (ps.reverse.find? (·.1 == address)).map (·.2)

/-- The addresses in order, each once. -/
def addresses (ps : Parameters) : List String := Text.ordered (ps.map (·.1))

end Parameters

namespace Limits

def default : Limits :=
  { minNameLength := 1
    maxNameLength := 30
    columnMaxPrecision := 31
    sequenceNameMaxLength := 30
    numericMaxPrecision := 31
    rowSizeLimit := 4005
    indexKeyLimit := 1024
    oracleIdentifierLength := 30
    oracleVarcharLength := 4000
    sequenceStep := "50"
    filePathSuffix := none }

/-- The name of a check and of its setting in an address. -/
def splitAddress? (address : String) : Option (String × String) :=
  match Text.splitAtFirst? '.' address.toList with
  | some (check, setting) =>
    if check = [] ∨ setting = [] then none
    else some (String.ofList check, String.ofList setting)
  | none => none

/-- The number that a parameter gives. -/
def number (address value : String) : Except Failure Nat :=
  match Text.word? (Text.trim value) with
  | some n => .ok n
  | none => .error (.invalidLimit address value)

/-- The limits with one parameter applied; an address that no check has is of no effect. -/
def set (l : Limits) (address value : String) : Except Failure Limits :=
  match splitAddress? address with
  | none => .error (.missingValidatorName address)
  | some ("columns", "minLength") => do return { l with minNameLength := ← number address value }
  | some ("columns", "maxLength") => do return { l with maxNameLength := ← number address value }
  | some ("columns", "maxPrecision") => do
    return { l with columnMaxPrecision := ← number address value }
  | some ("range", "maxLength") => do
    return { l with sequenceNameMaxLength := ← number address value }
  | some ("numericType", "maxPrecision") => do
    return { l with numericMaxPrecision := ← number address value }
  | some ("tableSize", "rowSizeLimit") => do
    return { l with rowSizeLimit := ← number address value }
  | some ("createIndex", "maxKeyLength") => do
    return { l with indexKeyLimit := ← number address value }
  | some ("oracleLength", "maxLength") => do
    return { l with oracleIdentifierLength := ← number address value }
  | some ("oracleCLOB", "maxLength") => do
    return { l with oracleVarcharLength := ← number address value }
  | some ("sequence", "expected") => .ok { l with sequenceStep := value }
  | some ("filePath", "suffix") => .ok { l with filePathSuffix := some value }
  | some _ => .ok l

/-- The limits with the parameters at some addresses applied one after the other. -/
def setAll (ps : Parameters) : Limits → List String → Except Failure Limits
  | l, [] => .ok l
  | l, address :: addresses => do
    let l ← l.set address ((ps.value? address).getD "")
    setAll ps l addresses

def withParameters (l : Limits) (ps : Parameters) : Except Failure Limits :=
  setAll ps l ps.addresses

end Limits

end MigrationAudit
