import MigrationAudit.Json.Reader

/-!
# Reading records

A reader goes through a value in the order of the text and stops at the first fault, be it one of
the text or one of shape.  A record is written as an object, its fields in any order and other
members ignored, or as a list of its fields in their declared order, from the first on.  A field
that is not written keeps the value it had at the start; none may be written twice.
-/

namespace MigrationAudit

abbrev Reading (α : Type) := Except JsonFault α

/-- A reader of values inside a number of brackets. -/
abbrev JsonReader (α : Type) := Nat → Json → Reading α

/-- Reading stops at a fault, if there is one. -/
def JsonFault.check : Option JsonFault → Reading Unit
  | none => .ok ()
  | some fault => .error fault

namespace Json

/-- The fault met when a value of another shape is expected. -/
def mismatch : Json → JsonFault
  | broken read _ => read
  | _ => .mismatched

def readText : Json → Reading String
  | text s => .ok s
  | j => .error j.mismatch

def readFlag : Json → Reading Bool
  | bool b => .ok b
  | j => .error j.mismatch

/-- A whole number that is not negative. -/
def readWord : Json → Reading Nat
  | number (.natural n) => .ok n
  | j => .error j.mismatch

/-- A text, a number or a flag, as text. -/
def readScalar : Json → Reading String
  | text s => .ok s
  | number n => .ok n.render
  | bool true => .ok "true"
  | bool false => .ok "false"
  | j => .error j.mismatch

/-- Nothing, or a value. -/
def readOptional {α : Type} (read : Json → Reading α) : Json → Reading (Option α)
  | null => .ok none
  | j => (read j).map some

end Json

def JsonItems.read {α : Type} (read : Json → Reading α) : JsonItems → Reading (List α)
  | .stop none => .ok []
  | .stop (some fault) => .error fault
  | .item head rest => do
    let x ← read head
    let xs ← rest.read read
    pure (x :: xs)

/-- A list of values. -/
def Json.readList {α : Type} (read : JsonReader α) (depth : Nat) : Json → Reading (List α)
  | .array items =>
    if depth + 1 < Json.depthLimit then items.read (read (depth + 1)) else .error .malformed
  | j => .error j.mismatch

/-- A field of a record: its label, and how its value changes the record. -/
structure RecordField (ρ : Type) where
  label : String
  read : Nat → Json → Reading (ρ → ρ)

/-- The fields of a record written as an object.  `seen` holds the labels before. -/
def JsonMembers.readFields {ρ : Type} (fields : List (RecordField ρ)) (depth : Nat) :
    List String → ρ → JsonMembers → Reading ρ
  | _, r, .stop none => .ok r
  | _, _, .stop (some fault) => .error fault
  | _, _, .member none _ _ => .error .malformed
  | seen, r, .member (some label) value rest =>
    match fields.find? (·.label == label) with
    | none => do
      JsonFault.check value.skipFault
      rest.readFields fields depth seen r
    | some field =>
      if label ∈ seen then .error .mismatched
      else do
        let change ← field.read depth value
        rest.readFields fields depth (label :: seen) (change r)

/-- The fields of a record written as a list; an item beyond the last field is no JSON. -/
def JsonItems.readFields {ρ : Type} (depth : Nat) :
    List (RecordField ρ) → ρ → JsonItems → Reading ρ
  | _, r, .stop none => .ok r
  | _, _, .stop (some fault) => .error fault
  | [], _, .item _ _ => .error .malformed
  | field :: fields, r, .item head rest => do
    let change ← field.read depth head
    rest.readFields depth fields (change r)

/-- A record that starts as `start`. -/
def Json.readRecord {ρ : Type} (fields : List (RecordField ρ)) (start : ρ) (depth : Nat) :
    Json → Reading ρ
  | .object members =>
    if depth + 1 < Json.depthLimit then members.readFields fields (depth + 1) [] start
    else .error .malformed
  | .array items =>
    if depth + 1 < Json.depthLimit then items.readFields (depth + 1) fields start
    else .error .malformed
  | j => .error j.mismatch

/-- The texts of an object by key; of a repeated key the last one counts. -/
def JsonMembers.readTexts : List (String × String) → JsonMembers → Reading (List (String × String))
  | found, .stop none => .ok found
  | _, .stop (some fault) => .error fault
  | _, .member none _ _ => .error .malformed
  | found, .member (some key) value rest => do
    let s ← value.readText
    rest.readTexts (found.filter (·.1 ≠ key) ++ [(key, s)])

def Json.readTexts (depth : Nat) : Json → Reading (List (String × String))
  | .object members =>
    if depth + 1 < Json.depthLimit then members.readTexts [] else .error .malformed
  | j => .error j.mismatch

/-- A whole text as one value: faults of the value come before text that follows it. -/
def JsonDocument.read {α : Type} (read : JsonReader α) (document : JsonDocument) : Reading α := do
  let x ← read 0 document.value
  if document.trailing then .error .malformed else pure x

mutual

/-- Of a repeated key only the last member is kept. -/
def Json.withoutRepeats : Json → Json
  | .array items => .array items.withoutRepeats
  | .object members => .object members.withoutRepeats
  | j => j

def JsonItems.withoutRepeats : JsonItems → JsonItems
  | .stop fault => .stop fault
  | .item head rest => .item head.withoutRepeats rest.withoutRepeats

def JsonMembers.withoutRepeats : JsonMembers → JsonMembers
  | .stop fault => .stop fault
  | .member key value rest =>
    let rest' := rest.withoutRepeats
    match key with
    | some k =>
      if rest.toList.any (·.1 == k) then rest' else .member key value.withoutRepeats rest'
    | none => .member key value.withoutRepeats rest'

end

end MigrationAudit
