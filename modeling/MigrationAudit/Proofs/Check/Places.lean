import MigrationAudit.Proofs.Rule.Silence
import MigrationAudit.Session.Catalogue

/-!
# What the verdict on a change says of its place

Every issue with a change is made out of its place and of something that most checks know from the
change alone.  So if a map of issues carries what is said of one place to what is said of another
place of the same change, it carries the findings there to the findings here
(`ChangePlace.CarriedBy.run_of_not_looksAround`).  Three checks look around in the change set and in
the changelog; their findings are carried as well where what they see there is the same
(`ChangePlace.CarriedBy.run`).  Carried from a place to itself, findings tell what they are made of
(`ChangeCheck.issues_of_run`).
-/

namespace MigrationAudit

/-! ## Rules in contexts -/

/-- Both contexts hold the same value, and the map carries an issue of the first to the same issue of
the second. -/
structure Context.CarriedBy (σ : Issue → Issue) (c c' : Context) : Prop where
  field : c'.field = c.field
  value : c'.value = c.value
  issue : ∀ cause, c'.issue cause = σ <$> c.issue cause

namespace Binding

variable {σ : Issue → Issue}

theorem run_carried {c c' : Context} (h : c.CarriedBy σ c') (rule : Rule) :
    (⟨rule, c'⟩ : Binding).run = List.map σ <$> (⟨rule, c⟩ : Binding).run := by
  simp only [run, h.field, h.value, h.issue, map_bind, bind_map_left]
  refine bind_congr fun value => bind_congr fun valid => ?_
  cases valid with
  | true => rfl
  | false => simp

theorem runAll_carried : ∀ {bs bs' : List Binding},
    bs'.map run = bs.map (fun b => List.map σ <$> b.run) → runAll bs' = List.map σ <$> runAll bs
  | [], [], _ => rfl
  | [], _ :: _, h => by simp at h
  | _ :: _, [], h => by simp at h
  | b :: bs, b' :: bs', h => by
    simp only [List.map_cons, List.cons.injEq] at h
    simp only [runAll_cons, h.1, runAll_carried h.2, map_bind, bind_map_left, map_pure,
      List.map_append]

/-- A rule that is broken anywhere in a change gives rise to an issue of the change. -/
theorem issues_of_run {b : Binding} {place : ChangePlace} (hplace : b.context.place? = some place)
    {issues : List Issue} (h : b.run = .ok issues) :
    ∀ i ∈ issues, ∃ cause, i = Issue.ofChange place (some b.context.field) cause := by
  intro i hi
  obtain ⟨value, -, -, hissue⟩ := (mem_run_iff hplace h).mp hi
  exact ⟨_, hissue⟩

end Binding

namespace Check

/-- Rules on nested columns and on their constraints are tried in the change. -/
theorem place?_of_mem_columnBindings (bounds : ColumnBounds) (place : ChangePlace)
    (c : NestedColumn) : ∀ b ∈ columnBindings bounds place c, b.context.place? = some place := by
  have constraints : ∀ k, ∀ b ∈ constraintBindings bounds place k,
      b.context.place? = some place := by
    simp [constraintBindings, Binding.each, constraintContext, columnsContext, Context.place?,
      or_imp, forall_and]
  simp only [columnBindings, Binding.each, List.forall_mem_append, List.forall_mem_map]
  refine ⟨⟨⟨?_, fun a _ => rfl⟩, ?_⟩, ?_⟩
  · simp [columnContext, columnsContext, Context.place?]
  · simp [columnContext, columnsContext, Context.place?]
  · intro b hb
    obtain ⟨k, -, hb⟩ := List.mem_flatMap.mp hb
    exact constraints k b hb

/-- The names under attributes, each with the label of its attribute. -/
def namesUnder (c : Change) (attributes : List Attribute) : List (String × String) :=
  attributes.flatMap fun a => ((c.text? a).toList.flatMap Text.names).map fun name => (a.label, name)

theorem allNameContexts_labels (place : ChangePlace) : ∀ attributes : List Attribute,
    allNameContexts place (labels attributes) = .ok ((namesUnder place.change attributes).map
      fun n => .ofValue (.change place) n.1 (some n.2))
  | [] => rfl
  | a :: attributes => by
    have ih := allNameContexts_labels place attributes
    unfold labels at ih
    simp only [labels, List.map_cons, allNameContexts, nameContexts, Change.lookup_label, ih,
      namesUnder, List.flatMap_cons, List.map_append, List.map_map]
    rfl

/-- Under labels of attributes there are always names to judge, if only none. -/
theorem nameLengths_labels (least greatest : Nat) (attributes : List Attribute)
    (place : ChangePlace) :
    nameLengths least greatest (labels attributes) place =
      let contexts := (namesUnder place.change attributes).map fun n =>
        Context.ofValue (.change place) n.1 (some n.2)
      Binding.runAll
        (Binding.each (.minLength least) contexts ++ Binding.each (.maxLength greatest) contexts) := by
  unfold nameLengths
  rw [allNameContexts_labels]
  rfl

end Check

/-! ## Places of one change -/

/-- Both places hold the same change, and the map carries an issue of the change at the first to the
same issue at the second. -/
structure ChangePlace.CarriedBy (σ : Issue → Issue) (p p' : ChangePlace) : Prop where
  change : p'.change = p.change
  issue : ∀ field cause, Issue.ofChange p' field cause = σ (Issue.ofChange p field cause)

/-- The map carries an issue of a nested column at the first place to the same issue at the second. -/
def ChangePlace.ColumnsCarriedBy (σ : Issue → Issue) (p p' : ChangePlace) : Prop :=
  ∀ field cause, Check.columnIssue p' field cause = σ (Check.columnIssue p field cause)

namespace ChangePlace.CarriedBy

variable {σ : Issue → Issue} {p p' : ChangePlace}

theorem map_ofChange (h : p.CarriedBy σ p') (field : Option String) (causes : List Cause) :
    causes.map (Issue.ofChange p' field) = (causes.map (Issue.ofChange p field)).map σ := by
  rw [List.map_map]
  exact List.map_congr_left fun cause _ => h.issue field cause

theorem onChange (h : p.CarriedBy σ p') (a : Option Attribute) (cause : Option Cause) :
    Check.onChange p' a cause = (Check.onChange p a cause).map σ :=
  h.map_ofChange _ _

theorem ofSubject (h : p.CarriedBy σ p') (field : String) :
    (Context.ofSubject (.change p) field).CarriedBy σ (.ofSubject (.change p') field) where
  field := rfl
  value := congrArg (Change.lookup · field) h.change
  issue cause := congrArg Except.ok (h.issue (some field) cause)

theorem ofValue (h : p.CarriedBy σ p') (field : String) (value : Option String) :
    (Context.ofValue (.change p) field value).CarriedBy σ (.ofValue (.change p') field value) where
  field := rfl
  value := rfl
  issue cause := congrArg Except.ok (h.issue (some field) cause)

theorem columnContext (h : p.CarriedBy σ p') (c : NestedColumn) (a : Attribute) :
    (Check.columnContext p c a).CarriedBy σ (Check.columnContext p' c a) where
  field := rfl
  value := rfl
  issue cause := congrArg Except.ok (h.issue (some a.label) cause)

theorem constraintContext (h : p.CarriedBy σ p') (k : InlineConstraints) (label : String)
    (a : Attribute) :
    (Check.constraintContext p k label a).CarriedBy σ (Check.constraintContext p' k label a) where
  field := rfl
  value := rfl
  issue cause := congrArg Except.ok (h.issue (some label) cause)

/-! ## Checks of the change alone -/

theorem onFields (h : p.CarriedBy σ p') (rule : Rule) (fields : List String) :
    Check.onFields rule fields p' = List.map σ <$> Check.onFields rule fields p := by
  refine Binding.runAll_carried ?_
  simp only [Binding.each, List.map_map, Function.comp_def, Binding.run_carried (h.ofSubject _)]

theorem nameLengths (h : p.CarriedBy σ p') (least greatest : Nat) (attributes : List Attribute) :
    Check.nameLengths least greatest (Check.labels attributes) p' =
      List.map σ <$> Check.nameLengths least greatest (Check.labels attributes) p := by
  rw [Check.nameLengths_labels, Check.nameLengths_labels, h.change]
  refine Binding.runAll_carried ?_
  simp only [Binding.each, List.map_append, List.map_map, Function.comp_def,
    Binding.run_carried (h.ofValue _ _)]

theorem columns (h : p.CarriedBy σ p') (bounds : Check.ColumnBounds) :
    Check.columns bounds p' = List.map σ <$> Check.columns bounds p := by
  have bindings : ∀ n, (Check.columnBindings bounds p' n).map Binding.run =
      (Check.columnBindings bounds p n).map fun b => List.map σ <$> b.run := by
    intro n
    simp only [Check.columnBindings, Check.constraintBindings, Binding.each, List.map_append,
      List.map_cons, List.map_nil, List.map_map, List.map_flatMap, Function.comp_def,
      Binding.run_carried (h.columnContext _ _), Binding.run_carried (h.constraintContext _ _ _)]
  have runs : Binding.runAll (p.change.columns.flatMap (Check.columnBindings bounds p')) =
      List.map σ <$> Binding.runAll (p.change.columns.flatMap (Check.columnBindings bounds p)) :=
    Binding.runAll_carried (by simp only [List.map_flatMap, bindings])
  simp only [Check.columns, h.change, runs, h.map_ofChange, map_bind, bind_map_left, map_pure,
    List.map_append]

theorem longVarcharColumns (hcolumns : p.ColumnsCarriedBy σ p') (greatest : Nat) : ∀ cs,
    Check.longVarcharColumns greatest p' cs =
      List.map σ <$> Check.longVarcharColumns greatest p cs
  | [] => rfl
  | c :: cs => by
    simp only [Check.longVarcharColumns, longVarcharColumns hcolumns greatest cs, hcolumns _ _,
      map_bind, bind_map_left]
    refine bind_congr fun long => bind_congr fun rest => ?_
    cases long <;> rfl

theorem longVarchar (h : p.CarriedBy σ p') (hcolumns : p.ColumnsCarriedBy σ p')
    (greatest : Nat) : Check.longVarchar greatest p' = List.map σ <$> Check.longVarchar greatest p := by
  simp only [Check.longVarchar, h.change, longVarcharColumns hcolumns, h.onChange, map_bind,
    bind_map_left]
  refine bind_congr fun issues => ?_
  split <;> simp

theorem sequence (h : p.CarriedBy σ p') (expected : String) :
    Check.sequence expected p' = List.map σ <$> Check.sequence expected p := by
  simp only [Check.sequence, map_bind]
  refine bind_congr fun equal => Binding.runAll_carried ?_
  simp only [Binding.each, List.map_append, List.map_map, Function.comp_def,
    Binding.run_carried (h.ofSubject _)]

theorem copiedColumn (h : p.CarriedBy σ p') :
    Check.copiedColumn p' = List.map σ <$> Check.copiedColumn p := by
  simp only [Check.copiedColumn, h.onFields, h.change, h.issue, map_bind, bind_map_left]
  refine bind_congr fun issues => ?_
  split <;> simp [Function.comp_def]

theorem modifiedToLob (h : p.CarriedBy σ p') (hcolumns : p.ColumnsCarriedBy σ p') :
    Check.modifiedToLob p' = (Check.modifiedToLob p).map σ := by
  simp only [Check.modifiedToLob, h.change, hcolumns _ _]
  split
  · split <;> rfl
  · rfl

theorem untypedValues (h : p.CarriedBy σ p') :
    Check.untypedValues p' = (Check.untypedValues p).map σ := by
  simp only [Check.untypedValues, h.change, h.map_ofChange]
  split <;> rfl

/-! ## Checks that look at the store -/

theorem rowBudget (h : p.CarriedBy σ p') (limit : Nat) (store : Store) :
    Check.rowBudget limit store p' = List.map σ <$> Check.rowBudget limit store p := by
  simp only [Check.rowBudget, h.change, h.map_ofChange]
  split
  · rfl
  · simp only [map_bind, map_pure]

theorem keyBudget (h : p.CarriedBy σ p') (hcolumns : p.ColumnsCarriedBy σ p') (limit : Nat)
    (store : Store) : Check.keyBudget limit store p' = List.map σ <$> Check.keyBudget limit store p := by
  simp only [Check.keyBudget, h.change, hcolumns _ _]
  split
  · simp only [map_bind]
    refine bind_congr fun table => bind_congr fun total => ?_
    split <;> rfl
  · rfl

theorem nullableUnique (h : p.CarriedBy σ p') (store : Store) :
    Check.nullableUnique store p' = List.map σ <$> Check.nullableUnique store p := by
  simp only [Check.nullableUnique, h.change, h.onChange]
  split
  · simp only [map_bind, map_pure]
  · rfl

theorem referredColumn (h : p.CarriedBy σ p') (store : Store) :
    Check.referredColumn store p' = List.map σ <$> Check.referredColumn store p := by
  unfold Check.referredColumn
  rw [h.change]
  split <;> simp only [h.onChange, map_bind, map_pure]

/-! ## Checks that look at what is remembered or around -/

theorem duplicatedIndex (h : p.CarriedBy σ p') (memory : Memory) :
    Check.duplicatedIndex p' memory =
      ((Check.duplicatedIndex p memory).1.map σ, (Check.duplicatedIndex p memory).2) := by
  simp only [Check.duplicatedIndex, h.change, h.onChange]
  cases p.change.element with
  | createIndex => cases memory.indexes.owner? (Check.indexKey p.change) <;> rfl
  | dropIndex => cases p.change.text? .indexName <;> rfl
  | _ => rfl

theorem insertedElsewhere (h : p.CarriedBy σ p') (path : p'.log.filePath = p.log.filePath)
    (memory : Memory) : Check.insertedElsewhere p' memory =
      ((Check.insertedElsewhere p memory).1.map σ, (Check.insertedElsewhere p memory).2) := by
  simp only [Check.insertedElsewhere, h.change, h.onChange, path]
  cases Check.insertedTable? p.change with
  | none => rfl
  | some table =>
    cases ho : memory.inserters.get? table with
    | none => simp only [ho, List.map_nil]
    | some first => simp only [ho]

theorem nullableTenant (h : p.CarriedBy σ p') (hcolumns : p.ColumnsCarriedBy σ p')
    (denied : p'.later.any (Check.deniesNullTenant (p.change.text? .tableName)) =
      p.later.any (Check.deniesNullTenant (p.change.text? .tableName))) :
    Check.nullableTenant p' = (Check.nullableTenant p).map σ := by
  simp only [Check.nullableTenant, h.change, denied, hcolumns _ _]
  split
  · split
    · split <;> rfl
    · rfl
  · rfl

theorem notNullWithoutDefault (h : p.CarriedBy σ p') (hcolumns : p.ColumnsCarriedBy σ p')
    (declared : ∀ column,
      p'.earlier.any (Check.declaresColumn (p.change.text? .tableName) column) =
        p.earlier.any (Check.declaresColumn (p.change.text? .tableName) column)) :
    Check.notNullWithoutDefault p' = (Check.notNullWithoutDefault p).map σ := by
  simp only [Check.notNullWithoutDefault, h.change, declared, h.onChange, hcolumns _ _]
  split
  · rfl
  · rw [List.map_map]
    rfl
  · rfl

end ChangePlace.CarriedBy

/-! ## All checks -/

/-- Whether a check cites nested columns, by an issue of its own. -/
def ChangeCheck.citesColumns : ChangeCheck → Bool
  | .longVarchar | .nullableTenant | .notNullWithoutDefault | .modifiedToLob | .keyBudget => true
  | _ => false

/-- Whether a check looks at what surrounds a change in its change set or changelog. -/
def ChangeCheck.looksAround : ChangeCheck → Bool
  | .notNullWithoutDefault | .nullableTenant | .insertedElsewhere => true
  | _ => false

/-- What surrounds the change is the same at both places, as far as a check looks at it. -/
structure ChangePlace.SurroundedAlike (p p' : ChangePlace) : Prop where
  declared : ∀ column, p'.earlier.any (Check.declaresColumn (p.change.text? .tableName) column) =
    p.earlier.any (Check.declaresColumn (p.change.text? .tableName) column)
  denied : p'.later.any (Check.deniesNullTenant (p.change.text? .tableName)) =
    p.later.any (Check.deniesNullTenant (p.change.text? .tableName))
  path : p'.log.filePath = p.log.filePath

namespace ChangePlace.CarriedBy

variable {σ : Issue → Issue} {p p' : ChangePlace} (policy : Policy) (store : Store)
  (memory : Memory)

/-- Findings of a check that does not look around are carried from one place to the other. -/
theorem run_of_not_looksAround (h : p.CarriedBy σ p') {check : ChangeCheck}
    (hcolumns : check.citesColumns = true → p.ColumnsCarriedBy σ p')
    (hcheck : check.looksAround = false) : check.run policy store p' memory =
      (List.map σ <$> (check.run policy store p memory).1,
        (check.run policy store p memory).2) := by
  cases check with
  | nonPortable | lowerCase | sequenceAlteration | baseTableLocation | standardType
  | numericPrecision | lobDimension => exact congrArg (·, memory) (h.onFields _ _)
  | oracleNames => exact congrArg (·, memory) (h.nameLengths _ _ Check.oracleAttributes)
  | sequenceName => exact congrArg (·, memory) (h.nameLengths _ _ [.sequenceName])
  | columns => exact congrArg (·, memory) (h.columns _)
  | longVarchar => exact congrArg (·, memory) (h.longVarchar (hcolumns rfl) _)
  | sequence => exact congrArg (·, memory) (h.sequence _)
  | copiedColumn => exact congrArg (·, memory) h.copiedColumn
  | rowBudget => exact congrArg (·, memory) (h.rowBudget _ store)
  | keyBudget => exact congrArg (·, memory) (h.keyBudget (hcolumns rfl) _ store)
  | nullableUnique => exact congrArg (·, memory) (h.nullableUnique store)
  | referredColumn => exact congrArg (·, memory) (h.referredColumn store)
  | modifiedToLob => exact congrArg (Except.ok ·, memory) (h.modifiedToLob (hcolumns rfl))
  | untypedValues =>
    simp only [ChangeCheck.run, h.untypedValues]
    split <;> rfl
  | filtered | droppedTwice | insertWithoutValue | replacedView =>
    simp only [ChangeCheck.run, Check.filtered, Check.droppedTwice, Check.insertWithoutValue,
      Check.replacedView, h.change, h.onChange]
    rfl
  | duplicatedIndex =>
    simp only [ChangeCheck.run, h.duplicatedIndex]
    rfl
  | notNullWithoutDefault | nullableTenant | insertedElsewhere => cases hcheck

/-- Findings of any check are carried from one place to the other where both are surrounded alike. -/
theorem run (h : p.CarriedBy σ p') {check : ChangeCheck}
    (hcolumns : check.citesColumns = true → p.ColumnsCarriedBy σ p')
    (around : p.SurroundedAlike p') : check.run policy store p' memory =
      (List.map σ <$> (check.run policy store p memory).1,
        (check.run policy store p memory).2) := by
  cases hcheck : check.looksAround with
  | false => exact h.run_of_not_looksAround policy store memory hcolumns hcheck
  | true =>
    cases check with
    | notNullWithoutDefault =>
      exact congrArg (Except.ok ·, memory)
        (h.notNullWithoutDefault (hcolumns rfl) around.declared)
    | nullableTenant =>
      exact congrArg (Except.ok ·, memory) (h.nullableTenant (hcolumns rfl) around.denied)
    | insertedElsewhere =>
      simp only [ChangeCheck.run, h.insertedElsewhere around.path]
      rfl
    | _ => cases hcheck

/-- What carries the issues of a place to themselves leaves what a check finds there as it is. -/
theorem eq_of_mem_run {place : ChangePlace} (h : place.CarriedBy σ place) {check : ChangeCheck}
    (hcolumns : check.citesColumns = true → place.ColumnsCarriedBy σ place) {issues : List Issue}
    (hrun : (check.run policy store place memory).1 = .ok issues) : ∀ i ∈ issues, σ i = i := by
  have carried := h.run policy store memory hcolumns ⟨fun _ => rfl, rfl, rfl⟩
  have same : (Except.ok issues : Findings) = List.map σ <$> Except.ok issues := by
    rw [← hrun]
    exact congrArg Prod.fst carried
  exact List.map_inj_left.mp ((Except.ok.inj same).symm.trans issues.map_id.symm)

end ChangePlace.CarriedBy

/-- What a check finds with a change are issues of the change or, if the check cites nested columns,
of columns in it. -/
theorem ChangeCheck.issues_of_run {check : ChangeCheck} {policy : Policy} {store : Store}
    {place : ChangePlace} {memory : Memory} {issues : List Issue}
    (h : (check.run policy store place memory).1 = .ok issues) :
    ∀ i ∈ issues, ∃ field cause, i = Issue.ofChange place field cause ∨
      check.citesColumns = true ∧ i = Check.columnIssue place field cause := by
  intro i hi
  cases hcites : check.citesColumns with
  | false =>
    -- whatever an issue says of its place is said anew, and it stays what it is
    let σ (i : Issue) : Issue := Issue.ofChange place i.field i.cause
    have own : place.CarriedBy σ place := ⟨rfl, fun _ _ => rfl⟩
    have fixed := own.eq_of_mem_run policy store memory (by simp [hcites]) h i hi
    exact ⟨i.field, i.cause, .inl fixed.symm⟩
  | true =>
    let σ (i : Issue) : Issue :=
      if i.element = some place.change.element.name then Issue.ofChange place i.field i.cause
      else Check.columnIssue place i.field i.cause
    have own : place.CarriedBy σ place := ⟨rfl, fun _ _ => (if_pos rfl).symm⟩
    have columns : place.ColumnsCarriedBy σ place := by
      intro field cause
      by_cases hname : place.change.element.name = "column"
      · simp only [σ, Issue.ofChange, hname]
        exact (ite_self _).symm
      · exact (if_neg fun h => hname (Option.some.inj h).symm).symm
    have fixed := own.eq_of_mem_run policy store memory (fun _ => columns) h i hi
    refine ⟨i.field, i.cause, ?_⟩
    by_cases hname : i.element = some place.change.element.name
    · exact .inl (fixed.symm.trans (if_pos hname))
    · exact .inr ⟨rfl, fixed.symm.trans (if_neg hname)⟩

end MigrationAudit
