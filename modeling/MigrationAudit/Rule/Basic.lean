import MigrationAudit.Cause
import MigrationAudit.Rule.StandardType

/-!
# Rules

A rule judges one value, which may be absent, and says what is wrong with a value that breaks it.
Only the rule on precision can fail to judge: when the precision is no number.
-/

namespace MigrationAudit

open Text

inductive Rule where
  | required
  | notPermitted
  | equals (expected : String)
  | minLength (least : Nat)
  | maxLength (greatest : Nat)
  | lowerCase
  | standardType
  | numericPrecision (greatest : Nat)
  | lobDimension
  deriving DecidableEq, Repr

namespace Rule

/-- The rule that a value is the expected one, which has to be more than blanks. -/
def equals? (expected : String) : Except Failure Rule :=
  if isBlankText expected then .error .blankExpectation else .ok (.equals expected)

/-- Numeric types have a precision, and not too high a one. -/
def precisionHolds (greatest : Nat) (declaration : String) : Except Failure Bool :=
  if !StandardType.isNumeric declaration then .ok true
  else if Declaration.parameter declaration = "" then .ok false
  else do
    let precision ← Declaration.precision "type" (Declaration.parameter declaration)
    return precision ≤ greatest

/-- Whether a value keeps the rule. -/
def holds (r : Rule) (value : Option String) : Except Failure Bool :=
  match r with
  | .required => .ok (!isBlankValue value)
  | .notPermitted => .ok value.isNone
  | .equals expected => .ok (value == some expected)
  | .minLength least => .ok (value.all fun s => least ≤ units (trim s))
  | .maxLength greatest => .ok (value.all fun s => units (trim s) ≤ greatest)
  | .lowerCase => .ok (value.all fun s => s == lower s)
  | .standardType => .ok (value.all StandardType.accepts)
  | .numericPrecision greatest => value.elim (.ok true) (precisionHolds greatest)
  | .lobDimension =>
    .ok (value.all fun s => !StandardType.isLob s || Declaration.parameter s != "")

/-- What is wrong with a value that breaks the rule. -/
def cause (r : Rule) (field : String) (value : Option String) : Cause :=
  match r with
  | .required => .required field
  | .notPermitted => .notPermitted field
  | .equals expected => .unequal value expected
  | .minLength least => .tooShort value least
  | .maxLength greatest => .tooLong value greatest
  | .lowerCase => .notLowerCase value
  | .standardType => .nonStandardType value
  | .numericPrecision greatest =>
    if value.all fun s => Declaration.parameter s == "" then .noPrecision field
    else .excessivePrecision value greatest
  | .lobDimension => .noDimension field value

end Rule

end MigrationAudit
