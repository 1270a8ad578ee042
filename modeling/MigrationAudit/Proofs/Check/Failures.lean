import MigrationAudit.Proofs.Check.Locality
import MigrationAudit.Proofs.Storage.Size

/-!
# Why a check fails

A check fails only over the change itself: an attribute that it needs is missing, or what should be
a number is none (`ChangeCheck.failsByChange_run`).  The fields that checks try are labels of
attributes, so they are known to every record; every context belongs to a change; and the step that
is expected of sequences has been tried when the settings were resolved.
-/

namespace MigrationAudit

/-- The failure lies with a change. -/
inductive Failure.OfChange : Failure → Prop
  | missing (element field : String) : OfChange (.missingAttribute element field)
  | malformed (field value : String) : OfChange (.malformedNumber field value)

/-- If there is a failure, it lies with a change. -/
def FailsByChange {α : Type} (x : Except Failure α) : Prop :=
  ∀ failure, x = .error failure → failure.OfChange

namespace FailsByChange

variable {α β : Type} {x : Except Failure α}

theorem ok (a : α) : FailsByChange (.ok a : Except Failure α) := fun _ h => by cases h

theorem error {failure : Failure} (h : failure.OfChange) :
    FailsByChange (.error failure : Except Failure α) := fun _ heq => by
  cases heq
  exact h

theorem bind {f : α → Except Failure β} (hx : FailsByChange x) (hf : ∀ a, FailsByChange (f a)) :
    FailsByChange (x >>= f) := by
  cases x with
  | ok a => exact hf a
  | error failure => exact error (hx failure rfl)

theorem map (hx : FailsByChange x) (f : α → β) : FailsByChange (x.map f) :=
  hx.bind fun a => ok (f a)

theorem elim {f : β → Except Failure α} (hx : FailsByChange x) (hf : ∀ b, FailsByChange (f b))
    (o : Option β) : FailsByChange (o.elim x f) := by
  cases o with
  | none => exact hx
  | some b => exact hf b

theorem atField (hx : FailsByChange x) (field : String) :
    FailsByChange (x.mapError (Failure.atField field)) := by
  cases x with
  | ok a => exact ok a
  | error failure =>
    have h := hx failure rfl
    cases h with
    | missing element name => exact error (.missing element name)
    | malformed name value => exact error (.malformed field value)

end FailsByChange

open FailsByChange (ok error)

/-! ## Numbers and attributes -/

theorem Declaration.failsByChange_number (field value : String) :
    FailsByChange (number field value) := by
  unfold number
  split
  · exact ok _
  · exact error (.malformed field value)

theorem Declaration.failsByChange_precision (field parameter : String) :
    FailsByChange (precision field parameter) := by
  unfold precision
  split
  · exact ok 0
  · exact failsByChange_number field _

theorem Change.failsByChange_require (c : Change) (a : Attribute) : FailsByChange (c.require a) := by
  unfold require
  split
  · exact ok _
  · exact error (.missing _ _)

namespace Storage

theorem failsByChange_read (measure : Measure) (parameter : String) :
    FailsByChange (measure.read parameter) := by
  cases measure with
  | nothing => exact ok 0
  | precision =>
    rw [Measure.read]
    exact Declaration.failsByChange_precision "type" parameter
  | number =>
    rw [Measure.read, lengthOf]
    exact Declaration.failsByChange_number "type" parameter

theorem failsByChange_readLength (measure : Measure) (length : Option String) :
    FailsByChange (readLength measure length) :=
  (ok 0).elim (failsByChange_read measure) length

theorem failsByChange_rowSize (c : Column) : FailsByChange (rowSize c) := by
  obtain ⟨f, hf⟩ := rowSize_eq_map c
  rw [hf]
  exact (failsByChange_readLength _ _).map f

theorem failsByChange_keySize (c : Column) : FailsByChange (keySize c) := by
  obtain ⟨f, hf⟩ := keySize_eq_map c
  rw [hf]
  exact (failsByChange_readLength _ _).map f

end Storage

/-! ## Rules in contexts -/

namespace Rule

theorem failsByChange_precisionHolds (greatest : Nat) (declaration : String) :
    FailsByChange (precisionHolds greatest declaration) := by
  unfold precisionHolds
  split
  · exact ok true
  · split
    · exact ok false
    · exact (Declaration.failsByChange_precision "type" _).bind fun n => ok _

theorem failsByChange_holds (r : Rule) (value : Option String) : FailsByChange (r.holds value) := by
  cases r with
  | numericPrecision greatest => exact (ok true).elim (failsByChange_precisionHolds greatest) value
  | _ => exact ok _

end Rule

/-- The context has a value, if an absent one, and belongs to a change. -/
def Context.Settled (c : Context) : Prop :=
  (∃ value, c.value = .ok value) ∧ ∃ place, c.place? = some place

namespace Binding

theorem failsByChange_run {b : Binding} (h : b.context.Settled) : FailsByChange b.run := by
  obtain ⟨⟨value, hvalue⟩, place, hplace⟩ := h
  unfold run
  rw [hvalue]
  refine (ok value).bind fun v => ((b.rule.failsByChange_holds v).atField _).bind fun valid => ?_
  split
  · exact ok []
  · unfold Context.issue
    rw [hplace]
    exact (ok _).bind fun issue => ok [issue]

theorem failsByChange_runAll : ∀ {bs : List Binding}, (∀ b ∈ bs, b.context.Settled) →
    FailsByChange (runAll bs)
  | [], _ => ok []
  | b :: bs, h => by
    have head := failsByChange_run (h b List.mem_cons_self)
    have tail := failsByChange_runAll fun b' hb' => h b' (List.mem_cons_of_mem b hb')
    exact head.bind fun issues => tail.bind fun rest => ok _

theorem settled_of_mem_each {rule : Rule} {contexts : List Context}
    (h : ∀ c ∈ contexts, c.Settled) : ∀ b ∈ each rule contexts, b.context.Settled :=
  List.forall_mem_map.mpr h

end Binding

namespace Check

theorem settled_ofLabels (attributes : List Attribute) (place : ChangePlace) :
    ∀ c ∈ (labels attributes).map (Context.ofSubject (.change place)), c.Settled := by
  refine List.forall_mem_map.mpr (List.forall_mem_map.mpr fun a _ => ⟨?_, place, rfl⟩)
  exact ⟨place.change.text? a, place.change.lookup_label a⟩

theorem settled_ofNames (attributes : List Attribute) (place : ChangePlace) :
    ∀ c ∈ (namesUnder place.change attributes).map fun n =>
      Context.ofValue (.change place) n.1 (some n.2), c.Settled :=
  List.forall_mem_map.mpr fun _ _ => ⟨⟨_, rfl⟩, place, rfl⟩

theorem settled_constraintBindings (bounds : ColumnBounds) (place : ChangePlace)
    (k : InlineConstraints) : ∀ b ∈ constraintBindings bounds place k, b.context.Settled := by
  have settled : ∀ label a, (constraintContext place k label a).Settled :=
    fun label a => ⟨⟨_, rfl⟩, place, rfl⟩
  have names : ∀ c ∈ [Attribute.uniqueConstraintName, .foreignKeyName, .primaryKeyName].map
      fun a => constraintContext place k a.label a, c.Settled :=
    List.forall_mem_map.mpr fun a _ => settled a.label a
  simp only [constraintBindings, List.forall_mem_append]
  refine ⟨⟨⟨?_, ?_⟩, ?_⟩, ?_⟩
  · exact Binding.settled_of_mem_each names
  · exact Binding.settled_of_mem_each names
  · exact Binding.settled_of_mem_each names
  · exact Binding.settled_of_mem_each (by simp [settled])

theorem settled_columnBindings (bounds : ColumnBounds) (place : ChangePlace) (c : NestedColumn) :
    ∀ b ∈ columnBindings bounds place c, b.context.Settled := by
  have settled : ∀ a, (columnContext place c a).Settled := fun a => ⟨⟨_, rfl⟩, place, rfl⟩
  simp only [columnBindings, List.forall_mem_append]
  refine ⟨⟨⟨?_, ?_⟩, ?_⟩, ?_⟩
  · simp [settled]
  · exact Binding.settled_of_mem_each (List.forall_mem_map.mpr fun a _ => settled a)
  · simp [settled]
  · intro b hb
    obtain ⟨k, -, hb⟩ := List.mem_flatMap.mp hb
    exact settled_constraintBindings bounds place k b hb

/-! ## Checks -/

theorem failsByChange_onFields (rule : Rule) (attributes : List Attribute) (place : ChangePlace) :
    FailsByChange (onFields rule (labels attributes) place) :=
  Binding.failsByChange_runAll (Binding.settled_of_mem_each (settled_ofLabels attributes place))

theorem failsByChange_nameLengths (least greatest : Nat) (attributes : List Attribute)
    (place : ChangePlace) :
    FailsByChange (nameLengths least greatest (labels attributes) place) := by
  rw [nameLengths_labels]
  have settled := settled_ofNames attributes place
  exact Binding.failsByChange_runAll (List.forall_mem_append.mpr
    ⟨Binding.settled_of_mem_each settled, Binding.settled_of_mem_each settled⟩)

theorem failsByChange_columns (bounds : ColumnBounds) (place : ChangePlace) :
    FailsByChange (columns bounds place) := by
  have found : FailsByChange
      (Binding.runAll (place.change.columns.flatMap (columnBindings bounds place))) :=
    Binding.failsByChange_runAll fun b hb => by
      obtain ⟨c, -, hb⟩ := List.mem_flatMap.mp hb
      exact settled_columnBindings bounds place c b hb
  exact found.bind fun issues => ok _

theorem failsByChange_sequence {expected : String} (place : ChangePlace)
    (h : Rule.equals? expected = .ok (.equals expected)) :
    FailsByChange (sequence expected place) := by
  unfold sequence
  rw [h]
  have settled := settled_ofLabels sequenceAttributes place
  exact (ok _).bind fun equal => Binding.failsByChange_runAll (List.forall_mem_append.mpr
    ⟨Binding.settled_of_mem_each settled, Binding.settled_of_mem_each settled⟩)

theorem failsByChange_exceedsVarchar (greatest : Nat) (declaration : String) :
    FailsByChange (exceedsVarchar greatest declaration) := by
  unfold exceedsVarchar
  split
  · exact ok false
  · simp only
    split
    · exact ok false
    · exact (Declaration.failsByChange_number "type" _).bind fun n => ok _

theorem failsByChange_longVarchar (greatest : Nat) (place : ChangePlace) :
    FailsByChange (longVarchar greatest place) := by
  have nested : ∀ cs, FailsByChange (longVarcharColumns greatest place cs) := by
    intro cs
    induction cs with
    | nil => exact ok []
    | cons c cs ih =>
      have head : FailsByChange ((c.text? .type).elim (.ok false) (exceedsVarchar greatest)) :=
        (ok false).elim (failsByChange_exceedsVarchar greatest) (c.text? .type)
      exact head.bind fun long => ih.bind fun rest => ok _
  have long : ∀ declaration, FailsByChange
      ((exceedsVarchar greatest declaration).mapError
        (Failure.atField Attribute.newDataType.label)) :=
    fun declaration => (failsByChange_exceedsVarchar greatest declaration).atField _
  unfold longVarchar
  refine (nested _).bind fun issues => ?_
  split
  · exact (long _).bind fun found => ok _
  · exact (long _).bind fun found => ok _
  · exact ok issues

theorem failsByChange_overflow? (limit : Nat) : ∀ (total : Nat) (cs : List Column),
    FailsByChange (overflow? limit total cs)
  | _, [] => ok none
  | total, c :: cs => by
    refine (Storage.failsByChange_rowSize c).bind fun size => ?_
    simp only
    split
    · exact ok (some c)
    · exact failsByChange_overflow? limit _ cs

theorem failsByChange_rowBudget (limit : Nat) (store : Store) (place : ChangePlace) :
    FailsByChange (rowBudget limit store place) := by
  unfold rowBudget
  split
  · exact ok []
  · exact (failsByChange_overflow? limit 0 _).bind fun column => ok _

theorem failsByChange_keyTotal : ∀ (total : Nat) (cs : List Column),
    FailsByChange (keyTotal total cs)
  | total, [] => ok total
  | _, c :: cs =>
    (Storage.failsByChange_keySize c).bind fun _ => failsByChange_keyTotal _ cs

theorem failsByChange_keyBudget (limit : Nat) (store : Store) (place : ChangePlace) :
    FailsByChange (keyBudget limit store place) := by
  simp only [keyBudget]
  split
  · exact (Change.failsByChange_require _ _).bind fun table =>
      (failsByChange_keyTotal 0 _).bind fun total => ok _
  · exact ok []

theorem failsByChange_referredColumn (store : Store) (place : ChangePlace) :
    FailsByChange (referredColumn store place) := by
  have renamed : FailsByChange (renamedCause? store place.change) :=
    (Change.failsByChange_require _ _).bind fun table =>
      (Change.failsByChange_require _ _).bind fun name => ok _
  have modified : FailsByChange (modifiedCause? store place.change) :=
    (Change.failsByChange_require _ _).bind fun table =>
      (Change.failsByChange_require _ _).bind fun name => ok _
  unfold referredColumn
  cases place.change.element with
  | renameColumn => exact renamed.bind fun cause => ok _
  | modifyDataType | resizeDataType => exact modified.bind fun cause => ok _
  | _ => exact ok _

theorem failsByChange_nullableUnique (store : Store) (place : ChangePlace) :
    FailsByChange (nullableUnique store place) := by
  simp only [nullableUnique]
  split
  · exact (Change.failsByChange_require _ _).bind fun table => ok _
  · exact ok []

theorem failsByChange_copiedColumn (place : ChangePlace) :
    FailsByChange (copiedColumn place) := by
  refine (failsByChange_onFields .standardType [.toType, .fromType] place).bind fun issues => ?_
  split
  · exact ok _
  · exact ok issues

end Check

/-! ## Rules that never fail -/

/-- Only the rule on precision reads a number; every other rule can tell of any value. -/
theorem Rule.exists_holds_eq_ok {r : Rule} (h : ∀ greatest, r ≠ .numericPrecision greatest)
    (value : Option String) : ∃ valid, r.holds value = .ok valid := by
  cases r with
  | numericPrecision greatest => exact absurd rfl (h greatest)
  | _ => exact ⟨_, rfl⟩

namespace Binding

theorem exists_run_eq_ok {b : Binding} (h : b.context.Settled)
    (hr : ∀ greatest, b.rule ≠ .numericPrecision greatest) : ∃ issues, b.run = .ok issues := by
  obtain ⟨⟨value, hvalue⟩, place, hplace⟩ := h
  obtain ⟨valid, hvalid⟩ := Rule.exists_holds_eq_ok hr value
  unfold run Context.issue
  rw [hvalue, hplace]
  simp only [bind, Except.bind, hvalid, Except.mapError]
  cases valid with
  | true => exact ⟨_, rfl⟩
  | false => exact ⟨_, rfl⟩

theorem exists_runAll_eq_ok : ∀ {bs : List Binding}, (∀ b ∈ bs, b.context.Settled) →
    (∀ b ∈ bs, ∀ greatest, b.rule ≠ .numericPrecision greatest) →
      ∃ issues, runAll bs = .ok issues
  | [], _, _ => ⟨[], rfl⟩
  | b :: bs, hs, hr => by
    obtain ⟨settled, later⟩ := List.forall_mem_cons.mp hs
    obtain ⟨numberless, later'⟩ := List.forall_mem_cons.mp hr
    obtain ⟨issues, hissues⟩ := exists_run_eq_ok settled numberless
    obtain ⟨rest, hrest⟩ := exists_runAll_eq_ok later later'
    exact ⟨issues ++ rest, by rw [runAll, hissues, hrest]; rfl⟩

theorem rule_of_mem_each {rule : Rule} {contexts : List Context} :
    ∀ b ∈ each rule contexts, b.rule = rule :=
  List.forall_mem_map.mpr fun _ _ => rfl

end Binding

namespace Check

theorem exists_onFields_eq_ok {rule : Rule} (h : ∀ greatest, rule ≠ .numericPrecision greatest)
    (attributes : List Attribute) (place : ChangePlace) :
    ∃ issues, onFields rule (labels attributes) place = .ok issues :=
  Binding.exists_runAll_eq_ok (Binding.settled_of_mem_each (settled_ofLabels attributes place))
    fun b hb => Binding.rule_of_mem_each b hb ▸ h

theorem exists_nameLengths_eq_ok (least greatest : Nat) (attributes : List Attribute)
    (place : ChangePlace) :
    ∃ issues, nameLengths least greatest (labels attributes) place = .ok issues := by
  rw [nameLengths_labels]
  have settled := settled_ofNames attributes place
  refine Binding.exists_runAll_eq_ok (List.forall_mem_append.mpr
    ⟨Binding.settled_of_mem_each settled, Binding.settled_of_mem_each settled⟩) ?_
  refine List.forall_mem_append.mpr ⟨fun b hb => ?_, fun b hb => ?_⟩
  · rw [Binding.rule_of_mem_each b hb]
    exact fun _ => Rule.noConfusion
  · rw [Binding.rule_of_mem_each b hb]
    exact fun _ => Rule.noConfusion

end Check

/-- None of the checks that apply to an insert can fail. -/
theorem ChangeCheck.exists_run_eq_ok_of_insert {check : ChangeCheck}
    (h : check.appliesTo .insert = true) (policy : Policy) (store : Store) (place : ChangePlace)
    (memory : Memory) : ∃ issues, (check.run policy store place memory).1 = .ok issues := by
  cases check with
  | filtered | untypedValues | insertedElsewhere | insertWithoutValue => exact ⟨_, rfl⟩
  | nonPortable =>
    exact Check.exists_onFields_eq_ok (fun _ => Rule.noConfusion) Check.nonPortableAttributes place
  | lowerCase =>
    exact Check.exists_onFields_eq_ok (fun _ => Rule.noConfusion) Check.lowerCaseAttributes place
  | oracleNames => exact Check.exists_nameLengths_eq_ok _ _ Check.oracleAttributes place
  | _ => exact absurd h (by decide)

/-- If the step expected of sequences can be tried, a check fails only over the change. -/
theorem ChangeCheck.failsByChange_run {policy : Policy}
    (h : Rule.equals? policy.limits.sequenceStep = .ok (.equals policy.limits.sequenceStep))
    (check : ChangeCheck) (store : Store) (place : ChangePlace) (memory : Memory) :
    FailsByChange (check.run policy store place memory).1 := by
  cases check with
  | nonPortable => exact Check.failsByChange_onFields _ Check.nonPortableAttributes place
  | lowerCase => exact Check.failsByChange_onFields _ Check.lowerCaseAttributes place
  | sequenceAlteration =>
    exact Check.failsByChange_onFields _ Check.sequenceAlterationAttributes place
  | baseTableLocation =>
    exact Check.failsByChange_onFields _ Check.baseTableLocationAttributes place
  | standardType | numericPrecision | lobDimension =>
    exact Check.failsByChange_onFields _ [.newDataType] place
  | oracleNames => exact Check.failsByChange_nameLengths _ _ Check.oracleAttributes place
  | sequenceName => exact Check.failsByChange_nameLengths _ _ [.sequenceName] place
  | columns => exact Check.failsByChange_columns _ place
  | longVarchar => exact Check.failsByChange_longVarchar _ place
  | sequence => exact Check.failsByChange_sequence place h
  | rowBudget => exact Check.failsByChange_rowBudget _ store place
  | referredColumn => exact Check.failsByChange_referredColumn store place
  | keyBudget => exact Check.failsByChange_keyBudget _ store place
  | copiedColumn => exact Check.failsByChange_copiedColumn place
  | nullableUnique => exact Check.failsByChange_nullableUnique store place
  | _ => exact ok _

end MigrationAudit
