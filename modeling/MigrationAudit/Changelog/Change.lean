import MigrationAudit.Changelog.Element
import MigrationAudit.Failure

/-!
# Changes

A change has an element, values for some of the element's attributes and, where columns nest in the
element, a list of columns; a column may declare constraints inline.  A value counts only under an
attribute that the record may carry, so what a change says is what its element allows
(`Change.value?_eq_none_of_not_mem`).  Looking up a label that some other kind of record carries
finds nothing; a label that no record carries is a mistake (`lookup_eq_error_iff`).
-/

namespace MigrationAudit

inductive AttributeValue where
  | text (s : String)
  | flag (b : Bool)
  deriving DecidableEq, Repr

namespace AttributeValue

def toText : AttributeValue → String
  | text s => s
  | flag true => "true"
  | flag false => "false"

def flag? : AttributeValue → Option Bool
  | text _ => none
  | flag b => some b

end AttributeValue

/-- Values by attribute; the first value of an attribute is the one that counts. -/
abbrev AttributeValues := List (Attribute × AttributeValue)

/-- The value of an attribute in a record that may carry the attributes `allowed`. -/
def AttributeValues.value? (values : AttributeValues) (allowed : List Attribute) (a : Attribute) :
    Option AttributeValue :=
  if a ∈ allowed then List.lookup a values else none

/-- The value under a label, as text. -/
def AttributeValues.lookup (values : AttributeValues) (owner : String) (allowed : List Attribute)
    (label : String) : Except Failure (Option String) :=
  match Attribute.ofLabel? label with
  | some a => .ok ((values.value? allowed a).map AttributeValue.toText)
  | none => .error (.unknownAttribute owner label)

/-- The constraints declared inline with a column. -/
structure InlineConstraints where
  values : AttributeValues
  deriving DecidableEq, Repr

namespace InlineConstraints

def value? (c : InlineConstraints) (a : Attribute) : Option AttributeValue :=
  c.values.value? Attribute.ofConstraints a

def text? (c : InlineConstraints) (a : Attribute) : Option String :=
  (c.value? a).map AttributeValue.toText

def flag? (c : InlineConstraints) (a : Attribute) : Option Bool :=
  (c.value? a).bind AttributeValue.flag?

def lookup (c : InlineConstraints) (label : String) : Except Failure (Option String) :=
  c.values.lookup "constraints" Attribute.ofConstraints label

/-- The table that a column refers to: `references` if it is written at all, else the name of the
referenced table.  An empty text refers to nothing. -/
def reference? (c : InlineConstraints) : Option String :=
  ((c.text? .references).or (c.text? .referencedTableName)).filter (· ≠ "")

end InlineConstraints

/-- A column nested in a change. -/
structure NestedColumn where
  values : AttributeValues
  constraints? : Option InlineConstraints
  deriving DecidableEq, Repr

namespace NestedColumn

def value? (c : NestedColumn) (a : Attribute) : Option AttributeValue :=
  c.values.value? Attribute.ofColumn a

def text? (c : NestedColumn) (a : Attribute) : Option String :=
  (c.value? a).map AttributeValue.toText

def lookup (c : NestedColumn) (label : String) : Except Failure (Option String) :=
  c.values.lookup "column" Attribute.ofColumn label

def name? (c : NestedColumn) : Option String := c.text? .name

def hasDefaultValue (c : NestedColumn) : Bool :=
  [.defaultValue, .defaultValueNumeric, .defaultValueDate, .defaultValueBoolean,
    .defaultValueComputed].any fun a => (c.value? a).isSome

/-- Whether the column brings a value to insert; a computed value is none. -/
def hasValue (c : NestedColumn) : Bool :=
  [.value, .valueNumeric, .valueBoolean, .valueDate, .valueClobFile, .valueBlobFile].any
    fun a => (c.value? a).isSome

/-- A column is nullable unless its inline constraints deny it. -/
def nullable (c : NestedColumn) : Bool :=
  ((c.constraints?.bind (·.flag? .nullable))).getD true

end NestedColumn

structure Change where
  element : Element
  values : AttributeValues
  nested : List NestedColumn
  deriving DecidableEq, Repr

namespace Change

def value? (c : Change) (a : Attribute) : Option AttributeValue :=
  c.values.value? c.element.attributes a

def text? (c : Change) (a : Attribute) : Option String := (c.value? a).map AttributeValue.toText

def lookup (c : Change) (label : String) : Except Failure (Option String) :=
  c.values.lookup c.element.name c.element.attributes label

def isA (c : Change) (e : Element) : Bool := c.element.isA e

/-- The table that the change works on. -/
def table? (c : Change) : Option String := c.element.tableAttribute?.bind c.text?

/-- The columns nested in the change, none where its element nests none. -/
def columns (c : Change) : List NestedColumn := if c.element.nestsColumns then c.nested else []

theorem value?_eq_none_of_not_mem {c : Change} {a : Attribute} (h : a ∉ c.element.attributes) :
    c.value? a = none := by
  simp [value?, AttributeValues.value?, h]

end Change

/-- A look-up fails exactly on a label that no kind of record carries. -/
theorem lookup_eq_error_iff {values : AttributeValues} {owner : String} {allowed : List Attribute}
    {label : String} {failure : Failure} :
    values.lookup owner allowed label = .error failure ↔
      Attribute.ofLabel? label = none ∧ failure = .unknownAttribute owner label := by
  unfold AttributeValues.lookup
  cases Attribute.ofLabel? label with
  | none => simp [eq_comm]
  | some a => simp

end MigrationAudit
