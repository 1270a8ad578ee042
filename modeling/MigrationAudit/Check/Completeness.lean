import MigrationAudit.Check.Basic

/-!
# What a change says too little or too much

A new sequence starts and goes on as expected, a column is dropped in one way only, and an insert
that loads a file gives every column a value.
-/

namespace MigrationAudit.Check

/-- The attributes of a sequence that have to have the expected value. -/
def sequenceAttributes : List Attribute := [.startValue, .incrementBy]

/-- Both values are there, and both are the expected one. -/
def sequence (expected : String) (place : ChangePlace) : Findings := do
  let equal ← Rule.equals? expected
  let contexts := (labels sequenceAttributes).map (Context.ofSubject (.change place))
  Binding.runAll (Binding.each .required contexts ++ Binding.each equal contexts)

def droppedTwice (place : ChangePlace) : List Issue :=
  let c := place.change
  onChange place (some .columnName) <|
    causeIf (c.element = .dropColumn && (c.value? .columnName).isSome && !c.columns.isEmpty)
      .columnNameBesideColumns

/-- Whether a column is filled from a file. -/
def loadsFile (c : NestedColumn) : Bool :=
  (c.value? .valueClobFile).isSome || (c.value? .valueBlobFile).isSome

def insertWithoutValue (place : ChangePlace) : List Issue :=
  let c := place.change
  onChange place (some .value) <|
    causeIf (c.element = .insert && c.columns.any loadsFile && c.columns.any (!·.hasValue))
      (.insertWithoutValue ((c.text? .tableName).getD "null"))

end MigrationAudit.Check
