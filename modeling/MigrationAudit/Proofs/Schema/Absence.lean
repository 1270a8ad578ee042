import Mathlib.Data.List.TakeWhile
import MigrationAudit.Proofs.Changelog.Plain
import MigrationAudit.Proofs.Schema.Masked

/-!
# Changes that lack something

A change fails over the first mandatory attribute that it lacks, or else over a column without a
name, where it declares, drops or indexes columns, and for no other reason
(`Change.script_failure`).  Without a mandatory attribute it does nothing at all
(`Change.script_of_lacking`).  Over a column without a name it stops, and what it has done then is
what it does when it is cut off before that column, except that columns that it declares have not
been given their constraints yet (`Change.edits_eq_residue_cut`).
-/

namespace MigrationAudit

/-! ## What is mandatory -/

namespace Element

/-- The attributes without which a change cannot be replayed, in the order in which they are
looked for. -/
def mandatory : Element → List Attribute
  | .createTable | .addColumn | .dropTable | .dropColumn | .createIndex | .addUniqueConstraint
  | .addPrimaryKey | .dropIndex | .dropUniqueConstraint | .dropPrimaryKey => [.tableName]
  | .renameTable => [.oldTableName, .newTableName]
  | .renameColumn => [.tableName, .oldColumnName, .newColumnName]
  | .addNotNullConstraint | .dropNotNullConstraint | .modifyDataType | .resizeDataType =>
    [.tableName, .columnName]
  | .addForeignKeyConstraint | .dropForeignKeyConstraint | .dropAllForeignKeyConstraints =>
    [.baseTableName]
  | _ => []

/-- Whether the columns that nest in the element need names. -/
def namesColumns : Element → Bool
  | .createTable | .addColumn | .dropColumn | .createIndex => true
  | _ => false

end Element

namespace Change

/-- The first mandatory attribute that the change lacks. -/
def lacking? (c : Change) : Option Attribute :=
  c.element.mandatory.find? fun a => (c.text? a).isNone

def lacks (c : Change) (a : Attribute) : Failure := .missingAttribute c.element.name a.label

def unnamedColumn : Failure := .missingAttribute "column" "name"

/-- The failure over a column that needs a name and has none. -/
def unnamed? (c : Change) : Option Failure :=
  if c.element.namesColumns && c.nested.any fun n => n.name?.isNone then some unnamedColumn
  else none

/-- Why the change fails: over a mandatory attribute that it lacks, or else over a column. -/
def absence? (c : Change) : Option Failure := (c.lacking?.map c.lacks).or c.unnamed?

end Change

/-! ## Why a change fails -/

namespace Script

theorem andThen_nothing (s : Script) : s.andThen nothing = s := by
  obtain ⟨edits, failure⟩ := s
  cases failure <;> simp [andThen, nothing]

theorem andThen_failure (s t : Script) : (s.andThen t).failure = s.failure.or t.failure := by
  unfold andThen
  cases h : s.failure <;> simp [h]

theorem overColumns_failure_eq (f : String → NestedColumn → List Edit) (ns : List NestedColumn) :
    (overColumns f ns).failure =
      if ns.any fun n => n.name?.isNone then some Change.unnamedColumn else none := by
  rw [overColumns_failure]
  by_cases h : ∀ n ∈ ns, n.name?.isSome
  · rw [if_pos h, if_neg (by simpa [Option.isSome_iff_ne_none] using h)]
  · rw [if_neg h, if_pos (by simpa [Option.isSome_iff_ne_none] using h)]
    rfl

end Script

namespace Change

open Script

variable {c : Change} {a : Attribute} {as : List Attribute} {s : Script} {P : Script → Prop}

/-- The script fails over the first of the attributes that the change lacks, before any edit; if it
lacks none of them, the script is as said. -/
def Requires (c : Change) (P : Script → Prop) : List Attribute → Script → Prop
  | [], s => P s
  | a :: as, s => if c.text? a = none then s = fail (c.lacks a) else c.Requires P as s

theorem requires_require {f : String → Except Failure Script}
    (h : ∀ value, c.Requires P as (ofResult (f value))) :
    c.Requires P (a :: as) (ofResult (c.require a >>= f)) := by
  unfold Requires require
  cases ha : c.text? a with
  | none => rfl
  | some value => exact h value

theorem Requires.cases : ∀ {as : List Attribute}, c.Requires P as s →
    (∃ a, as.find? (fun a => (c.text? a).isNone) = some a ∧ s = fail (c.lacks a)) ∨
      as.find? (fun a => (c.text? a).isNone) = none ∧ P s
  | [], h => .inr ⟨rfl, h⟩
  | a :: as, h => by
    unfold Requires at h
    split at h
    · next ha => exact .inl ⟨a, by simp [ha], h⟩
    · next ha => simpa [ha] using Requires.cases h

/-- The script is cut short over a column without a name or not at all. -/
def Completes (c : Change) (s : Script) : Prop := s.failure = c.unnamed?

theorem completes_of_not_names (h : c.element.namesColumns = false) (hs : s.failure = none) :
    c.Completes s := by
  simp [Completes, unnamed?, h, hs]

theorem completes_of_names (h : c.element.namesColumns = true)
    (hs : s.failure = if c.nested.any fun n => n.name?.isNone then some unnamedColumn else none) :
    c.Completes s := by
  simp [Completes, unnamed?, h, hs]

theorem script_eq_columnScript (h : c.element.editsConstraints = false) :
    c.script = c.columnScript := by
  have nothing : c.constraintScript = .nothing := by
    unfold constraintScript
    cases he : c.element <;> rw [he] at h <;> first | rfl | cases h
  rw [script, nothing, andThen_nothing]

theorem script_eq_constraintScript (h : c.element.editsColumns = false) :
    c.script = c.constraintScript := by
  have nothing : c.columnScript = .nothing := by
    unfold columnScript
    cases he : c.element <;> rw [he] at h <;> first | rfl | cases h
  rw [script, nothing]
  rfl

theorem script_declares {t : String} (he : c.element = .createTable ∨ c.element = .addColumn)
    (ht : c.text? .tableName = some t) :
    c.script =
      (overColumns (fun name n => [.declare t name n.nullable (n.text? .type)]) c.nested).andThen
        (overColumns (fun name n => n.constraints?.toList.flatMap (inlineEdits t name))
          c.nested) := by
  have constraints : c.constraintScript =
      overColumns (fun name n => n.constraints?.toList.flatMap (inlineEdits t name)) c.nested := by
    unfold constraintScript
    rcases he with he | he <;> rw [he] <;> simp only [require, ht] <;> rfl
  rw [script, columnScript_declares he ht, constraints]

theorem requires_declares (he : c.element = .createTable ∨ c.element = .addColumn) :
    c.Requires c.Completes [.tableName] c.script := by
  have names : c.element.namesColumns = true := by rcases he with he | he <;> rw [he] <;> rfl
  unfold Requires
  cases ht : c.text? .tableName with
  | none =>
    have columns : c.columnScript = fail (c.lacks .tableName) := by
      unfold columnScript declareColumns
      rcases he with he | he <;> simp only [he, require, ht, lacks] <;> rfl
    rw [if_pos rfl, script, columns]
    rfl
  | some t =>
    rw [if_neg (by simp)]
    refine completes_of_names names ?_
    rw [script_declares he ht, andThen_failure, overColumns_failure_eq, overColumns_failure_eq,
      Option.or_self]

theorem requires_script (c : Change) : c.Requires c.Completes c.element.mandatory c.script := by
  cases element : c.element with
  | createTable => exact requires_declares (.inl element)
  | addColumn => exact requires_declares (.inr element)
  | renameTable =>
    rw [script_eq_columnScript (by rw [element]; rfl), columnScript, element]
    exact requires_require fun old => requires_require fun new =>
      completes_of_not_names (by rw [element]; rfl) rfl
  | renameColumn =>
    rw [script_eq_columnScript (by rw [element]; rfl), columnScript, element]
    exact requires_require fun table => requires_require fun old => requires_require fun new =>
      completes_of_not_names (by rw [element]; rfl) rfl
  | addNotNullConstraint | dropNotNullConstraint | modifyDataType | resizeDataType =>
    rw [script_eq_columnScript (by rw [element]; rfl), columnScript, element]
    exact requires_require fun table => requires_require fun column =>
      completes_of_not_names (by rw [element]; rfl) rfl
  | dropTable =>
    rw [script_eq_columnScript (by rw [element]; rfl), columnScript, element]
    exact requires_require fun table => completes_of_not_names (by rw [element]; rfl) rfl
  | dropColumn =>
    rw [script_eq_columnScript (by rw [element]; rfl), columnScript, element]
    exact requires_require fun table =>
      completes_of_names (by rw [element]; rfl) (overColumns_failure_eq _ c.nested)
  | createIndex =>
    rw [script_eq_constraintScript (by rw [element]; rfl), constraintScript, element]
    exact requires_require fun table =>
      completes_of_names (by rw [element]; rfl) (overColumns_failure_eq _ c.nested)
  | addUniqueConstraint | addPrimaryKey | addForeignKeyConstraint | dropIndex
  | dropUniqueConstraint | dropForeignKeyConstraint | dropPrimaryKey
  | dropAllForeignKeyConstraints =>
    rw [script_eq_constraintScript (by rw [element]; rfl), constraintScript, element]
    exact requires_require fun table => completes_of_not_names (by rw [element]; rfl) rfl
  | _ =>
    rw [script_eq_constraintScript (by rw [element]; rfl), constraintScript, element]
    exact completes_of_not_names (by rw [element]; rfl) rfl

/-- Whether a change fails, and over what, does not depend on the schema. -/
theorem script_failure (c : Change) : c.script.failure = c.absence? := by
  rcases c.requires_script.cases with ⟨a, ha, hs⟩ | ⟨ha, hs⟩
  · rw [hs, absence?, lacking?, ha]
    rfl
  · rw [absence?, lacking?, ha]
    exact hs

/-- If the script is cut short, an attribute is missing. -/
theorem eq_missingAttribute_of_script {failure : Failure} (h : c.script.failure = some failure) :
    ∃ element field, failure = .missingAttribute element field := by
  rw [script_failure, absence?, Option.or_eq_some_iff, Option.map_eq_some_iff] at h
  rcases h with ⟨a, -, rfl⟩ | ⟨-, h⟩
  · exact ⟨c.element.name, a.label, rfl⟩
  · unfold unnamed? at h
    split at h
    · exact ⟨"column", "name", (Option.some.inj h).symm⟩
    · cases h

theorem exists_of_lacking?_eq_none (h : c.lacking? = none) (ha : a ∈ c.element.mandatory) :
    ∃ value, c.text? a = some value := by
  have present := List.find?_eq_none.mp h a ha
  simpa [Option.ne_none_iff_exists'] using present

/-- A change that does not fail has what is mandatory. -/
theorem exists_of_mandatory (hok : c.script.failure = none) (ha : a ∈ c.element.mandatory) :
    ∃ value, c.text? a = some value := by
  rw [script_failure, absence?, Option.or_eq_none_iff, Option.map_eq_none_iff] at hok
  exact exists_of_lacking?_eq_none hok.1 ha

theorem script_of_lacking (ha : a ∈ c.element.mandatory) (hv : c.text? a = none) :
    c.script.edits = [] := by
  rcases c.requires_script.cases with ⟨b, -, hs⟩ | ⟨hb, -⟩
  · rw [hs]
    rfl
  · simpa [hv] using List.find?_eq_none.mp hb a ha

theorem absence?_eq_unnamedColumn (h : c.absence? = some unnamedColumn) :
    c.lacking? = none ∧ c.element.namesColumns = true ∧
      (c.nested.any fun n => n.name?.isNone) = true := by
  unfold absence? at h
  cases hlack : c.lacking? with
  | none => simpa [hlack, unnamed?] using h
  | some a =>
    have other : c.element.name ≠ "column" := by cases c.element <;> decide
    simp [hlack, lacks, unnamedColumn, other] at h

/-! ## Columns without a name -/

/-- The change cut off before the first nested column without a name. -/
def cut (c : Change) : Change := { c with nested := c.nested.takeWhile fun n => n.name?.isSome }

/-- The part of a script that a change still comes to if it fails over a column: where it declares
columns, they are not given their constraints any more. -/
def residue (c : Change) : Script :=
  match c.element with
  | .createTable | .addColumn => c.columnScript
  | _ => c.script

end Change

theorem NestedColumn.leading_takeWhile (ns : List NestedColumn) :
    leading (ns.takeWhile fun n => n.name?.isSome) = leading ns := by
  induction ns with
  | nil => rfl
  | cons n ns ih => cases hn : n.name? <;> simp [leading, hn, ih]

theorem Element.eq_of_namesColumns {e : Element} (h : e.namesColumns = true) :
    e = .createTable ∨ e = .addColumn ∨ e = .dropColumn ∨ e = .createIndex := by
  cases e <;> simp_all [Element.namesColumns]

namespace Change

open Script

variable {c : Change} {t : String}

theorem constraintScript_createIndex (he : c.element = .createIndex)
    (ht : c.text? .tableName = some t) :
    c.constraintScript =
      overColumns (fun name _ => [.attach t name (c.text? .indexName) .index]) c.nested := by
  unfold constraintScript
  rw [he]
  simp only [require, ht]
  rfl

theorem edits_declares_eq_cut (he : c.element = .createTable ∨ c.element = .addColumn)
    (ht : c.text? .tableName = some t) (h : (c.nested.any fun n => n.name?.isNone) = true) :
    c.script.edits = c.cut.columnScript.edits := by
  have first : (overColumns (fun name n => [.declare t name n.nullable (n.text? .type)])
      c.nested).failure = some unnamedColumn := by
    rw [overColumns_failure_eq, if_pos h]
  have columns : c.cut.columnScript =
      overColumns (fun name n => [.declare t name n.nullable (n.text? .type)]) c.cut.nested :=
    columnScript_declares he ht
  rw [script_declares he ht, andThen_edits, first, if_neg (by simp), List.append_nil, columns,
    overColumns_edits, overColumns_edits, cut, NestedColumn.leading_takeWhile]

theorem edits_dropColumn_eq_cut (he : c.element = .dropColumn)
    (ht : c.text? .tableName = some t) : c.script.edits = c.cut.script.edits := by
  have drops : c.cut.columnScript.edits =
      ((c.text? .columnName).toList ++ NestedColumn.leadingNames c.cut.nested).map
        (.dropColumn t) :=
    columnScript_dropColumn he ht
  have element : c.cut.element = .dropColumn := he
  rw [script_eq_columnScript (by rw [he]; rfl), script_eq_columnScript (by rw [element]; rfl),
    columnScript_dropColumn he ht, drops, cut, NestedColumn.leadingNames, NestedColumn.leadingNames,
    NestedColumn.leading_takeWhile]

theorem edits_createIndex_eq_cut (he : c.element = .createIndex)
    (ht : c.text? .tableName = some t) : c.script.edits = c.cut.script.edits := by
  have attaches : c.cut.constraintScript =
      overColumns (fun name _ => [.attach t name (c.text? .indexName) .index]) c.cut.nested :=
    constraintScript_createIndex he ht
  have element : c.cut.element = .createIndex := he
  rw [script_eq_constraintScript (by rw [he]; rfl),
    script_eq_constraintScript (by rw [element]; rfl), constraintScript_createIndex he ht, attaches,
    overColumns_edits, overColumns_edits, cut, NestedColumn.leading_takeWhile]

/-- A change that fails over a column without a name has done what it does when it is cut off before
the first such column. -/
theorem edits_eq_residue_cut (hlack : c.lacking? = none) (names : c.element.namesColumns = true)
    (h : (c.nested.any fun n => n.name?.isNone) = true) :
    c.script.edits = c.cut.residue.edits := by
  have element := Element.eq_of_namesColumns names
  obtain ⟨t, ht⟩ := exists_of_lacking?_eq_none hlack (a := .tableName)
    (by rcases element with he | he | he | he <;> rw [he] <;> decide)
  have same : c.cut.element = c.element := rfl
  unfold residue
  rw [same]
  rcases element with he | he | he | he <;> rw [he]
  · exact edits_declares_eq_cut (.inl he) ht h
  · exact edits_declares_eq_cut (.inr he) ht h
  · exact edits_dropColumn_eq_cut he ht
  · exact edits_createIndex_eq_cut he ht

theorem residue_cut_failure (hlack : c.lacking? = none) : c.cut.residue.failure = none := by
  have complete : c.cut.script.failure = none := by
    have unnamed : (c.cut.nested.any fun n => n.name?.isNone) = false := by
      refine List.any_eq_false.mpr fun n hn => ?_
      change n ∈ c.nested.takeWhile fun n => n.name?.isSome at hn
      have named : n.name?.isSome = true := by simpa using List.mem_takeWhile_imp hn
      simpa [Option.isSome_iff_ne_none] using named
    have lacking : c.cut.lacking? = none := hlack
    rw [script_failure, absence?, lacking, unnamed?, unnamed, Bool.and_false]
    rfl
  unfold residue
  split
  · exact failure_eq_none_of_andThen complete
  · exact failure_eq_none_of_andThen complete
  · exact complete

/-- Where columns need names, no constraint is dropped by its name. -/
theorem droppedName?_eq_none_of_names (names : c.element.namesColumns = true) :
    ∀ e ∈ c.script.edits, e.droppedName? = none := by
  by_cases he : c.element = .dropColumn
  · rw [script_eq_columnScript (by rw [he]; rfl)]
    exact fun e hmem => (columnEdit_of_mem_columnScript c e hmem).droppedName?_eq_none
  · have attaches : c.element.attaches = true := by
      cases hel : c.element <;> simp_all [Element.namesColumns, Element.attaches]
    exact List.filterMap_eq_nil_iff.mp (droppedNames_eq_nil attaches)

end Change

/-! ## What a failing change leaves -/

namespace Schema

open Change

/-- Whether a change fails, and over what, depends on the change alone.  If it lacks a mandatory
attribute, it leaves the schema as it is.  If it fails over a column without a name, it leaves what
the change does that is cut off before the first such column: to the columns alone, where it
declares columns, and all in all, where it drops or indexes them. -/
theorem replay_residue (s : Schema) (naming : Naming) (c : Change) :
    (s.replay naming c).2 = c.absence? ∧
      ((∃ a ∈ c.element.mandatory, c.text? a = none) → (s.replay naming c).1 = s) ∧
      ((s.replay naming c).2 = some unnamedColumn →
        (∃ n ∈ c.nested, n.name? = none) ∧ c.cut.residue.failure = none ∧
          (s.replay naming c).1 = (s.run naming c.cut.residue).1 ∧
          ∀ naming', (s.replay naming c).1.store.masked =
            (s.run naming' c.cut.residue).1.store.masked) := by
  refine ⟨c.script_failure, fun ⟨a, ha, hv⟩ => ?_, fun h => ?_⟩
  · rw [replay_schema, script_of_lacking ha hv]
    rfl
  · obtain ⟨hlack, names, unnamed⟩ := absence?_eq_unnamedColumn (c.script_failure.symm.trans h)
    have edits := edits_eq_residue_cut hlack names unnamed
    refine ⟨by simpa using unnamed, residue_cut_failure hlack, ?_, fun naming' => ?_⟩
    · rw [replay_schema, edits]
      rfl
    · have masked := masked_applyEdits naming naming' (droppedName?_eq_none_of_names names)
        (rfl : s.masked = s.masked)
      rw [replay_schema, run, ← edits]
      exact congrArg Schema.store masked

/-- A nameless index on a column, on one without a name and on another column, and the same index
without a table. -/
theorem replay_residue_createIndex :
    let s := empty.replayAll (fun _ => "d")
      [.ofTexts .createTable [(.tableName, "t")] [.ofKey "a" "pk", .ofName "b"]]
    let columns := [.ofName "a", ⟨[], none⟩, .ofName "b"]
    let c := Change.ofTexts .createIndex [(.tableName, "t")] columns
    let c' := Change.ofTexts .createIndex [] columns
    (s.replay (fun _ => "d") c).2 = some unnamedColumn ∧
      (s.replay (fun _ => "d") c).1 = (s.run (fun _ => "d") c.cut.residue).1 ∧
      (s.replay (fun _ => "d") c).1.store.masked =
        (s.run (fun _ => "e") c.cut.residue).1.store.masked ∧
      (s.replay (fun _ => "d") c').1 = s := by
  intro s columns c c'
  have fails : (s.replay (fun _ => "d") c).2 = some unnamedColumn := by decide +kernel
  have lacks : ∃ a ∈ c'.element.mandatory, c'.text? a = none :=
    ⟨.tableName, by decide, by decide⟩
  obtain ⟨-, -, same, masked⟩ := (replay_residue s (fun _ => "d") c).2.2 fails
  exact ⟨fails, same, masked fun _ => "e", (replay_residue s (fun _ => "d") c').2.1 lacks⟩

end Schema

end MigrationAudit
