import MigrationAudit.Failure
import MigrationAudit.Text.Blank
import MigrationAudit.Text.Digit
import MigrationAudit.Text.Pieces

/-!
# Type declarations

A declaration such as `VARCHAR(10)` names a base type and perhaps a parameter: the text between the
first opening parenthesis and the first closing one, provided the opening one comes first.  What is
around the parameter is the base.  A declaration without a parameter is all base
(`parameterised?_eq_none_iff`).
-/

namespace MigrationAudit.Declaration

open Text

/-- What stands before, inside and after the parentheses of a declaration, if it has them. -/
def parameterised? (cs : List Char) : Option (List Char × List Char × List Char) :=
  match splitAtFirst? '(' cs with
  | none => none
  | some (before, rest) =>
    if ')' ∈ before then none
    else (splitAtFirst? ')' rest).map fun (inside, after) => (before, inside, after)

def baseChars (cs : List Char) : List Char :=
  match parameterised? cs with
  | some (before, _, after) => trimChars (before ++ after)
  | none => trimChars cs

def parameterChars (cs : List Char) : List Char :=
  match parameterised? cs with
  | some (_, inside, _) => trimChars inside
  | none => []

/-- The declaration without its parameter and without blank edges. -/
def base (declaration : String) : String := String.ofList (baseChars declaration.toList)

/-- The parameter without blank edges; empty when there is none. -/
def parameter (declaration : String) : String := String.ofList (parameterChars declaration.toList)

/-- The whole number in the value of a field, blank edges aside. -/
def number (field value : String) : Except Failure Nat :=
  match word? (trim value) with
  | some n => .ok n
  | none => .error (.malformedNumber field value)

/-- The precision at the head of a numeric parameter; a blank parameter has precision zero. -/
def precision (field parameter : String) : Except Failure Nat :=
  if isBlankText parameter then .ok 0 else number field (beforeComma parameter)

/-- A declaration has no parameter exactly when it has no opening parenthesis, or a closing one
before the first, or none after it. -/
theorem parameterised?_eq_none_iff (cs : List Char) :
    parameterised? cs = none ↔
      ∀ before rest, splitAtFirst? '(' cs = some (before, rest) → ')' ∈ before ∨ ')' ∉ rest := by
  unfold parameterised?
  cases h : splitAtFirst? '(' cs with
  | none => simp
  | some p =>
    obtain ⟨before, rest⟩ := p
    by_cases hb : ')' ∈ before
    · simp [hb]
    · simp [hb, splitAtFirst?_eq_none_iff]

end MigrationAudit.Declaration
