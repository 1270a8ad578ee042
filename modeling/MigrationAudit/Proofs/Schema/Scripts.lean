import MigrationAudit.Schema.Script

/-!
# What scripts consist of

A script over nested columns holds the edits for the columns before the first one without a name,
and fails exactly if there is such a one (`Script.overColumns_edits`, `Script.overColumns_failure`).
A script that needs an attribute is empty where the change lacks it (`Change.edits_require`).  An
edit in the script for the columns tells the element of the change and what the change says
(`Change.columnEdit_of_mem_columnScript`); the script for the constraints attaches and detaches
constraints and does nothing else (`Change.constrains_of_mem_constraintScript`).  For some elements
the script for the columns is written out as a list.
-/

namespace MigrationAudit

namespace NestedColumn

/-- The columns before the first one without a name, each with its name. -/
def leading : List NestedColumn → List (String × NestedColumn)
  | [] => []
  | n :: ns =>
    match n.name? with
    | some name => (name, n) :: leading ns
    | none => []

def leadingNames (ns : List NestedColumn) : List String := (leading ns).map (·.1)

theorem mem_of_mem_leading {p : String × NestedColumn} : ∀ {ns : List NestedColumn},
    p ∈ leading ns → p.2 ∈ ns ∧ p.2.name? = some p.1
  | [], h => by simp [leading] at h
  | n :: ns, h => by
    unfold leading at h
    split at h
    · next name hn =>
      rcases List.mem_cons.mp h with rfl | h
      · exact ⟨List.mem_cons_self, hn⟩
      · exact (mem_of_mem_leading h).imp_left (List.mem_cons_of_mem n)
    · simp at h

theorem mem_leading {n : String} {x : NestedColumn} (hx : x.name? = some n) :
    ∀ {ns : List NestedColumn}, (∀ y ∈ ns, y.name?.isSome) → x ∈ ns → (n, x) ∈ leading ns
  | [], _, h => absurd h List.not_mem_nil
  | y :: ns, hns, h => by
    obtain ⟨name, hname⟩ := Option.isSome_iff_exists.mp (hns y List.mem_cons_self)
    rw [leading, hname]
    rcases List.mem_cons.mp h with rfl | h
    · obtain rfl : n = name := Option.some.inj (hx.symm.trans hname)
      exact List.mem_cons_self
    · have ih := mem_leading hx (fun z hz => hns z (List.mem_cons_of_mem y hz)) h
      exact List.mem_cons_of_mem _ ih

end NestedColumn

namespace Script

variable (f : String → NestedColumn → List Edit)

theorem overColumns_edits : ∀ ns : List NestedColumn,
    (overColumns f ns).edits = (NestedColumn.leading ns).flatMap fun p => f p.1 p.2
  | [] => rfl
  | n :: ns => by
    unfold overColumns NestedColumn.leading
    cases n.name? with
    | none => rfl
    | some name => simp [andThen, overColumns_edits ns]

theorem overColumns_failure : ∀ ns : List NestedColumn,
    (overColumns f ns).failure =
      if ∀ n ∈ ns, n.name?.isSome then none else some (.missingAttribute "column" "name")
  | [] => rfl
  | n :: ns => by
    unfold overColumns
    cases h : n.name? with
    | none => simp [fail, h]
    | some name => simp [andThen, overColumns_failure ns, h]

theorem forall_mem_overColumns {P : Edit → Prop} {f : String → NestedColumn → List Edit}
    (h : ∀ name n, ∀ e ∈ f name n, P e) (ns : List NestedColumn) :
    ∀ e ∈ (overColumns f ns).edits, P e := by
  intro e he
  rw [overColumns_edits, List.mem_flatMap] at he
  obtain ⟨p, -, he⟩ := he
  exact h p.1 p.2 e he

theorem andThen_edits (s t : Script) :
    (s.andThen t).edits = s.edits ++ if s.failure = none then t.edits else [] := by
  unfold andThen
  cases s.failure <;> simp

theorem failure_eq_none_of_andThen {s r : Script} (h : (s.andThen r).failure = none) :
    s.failure = none := by
  unfold andThen at h
  cases hs : s.failure with
  | none => rfl
  | some failure => simp [hs] at h

end Script

namespace Change

theorem edits_require (c : Change) (a : Attribute) (f : String → Except Failure Script) :
    (Script.ofResult (c.require a >>= f)).edits =
      (c.text? a).elim [] fun s => (Script.ofResult (f s)).edits := by
  unfold require
  cases c.text? a <;> rfl

theorem forall_mem_edits_require {P : Edit → Prop} {c : Change} {a : Attribute}
    {f : String → Except Failure Script}
    (h : ∀ s, c.text? a = some s → ∀ e ∈ (Script.ofResult (f s)).edits, P e) :
    ∀ e ∈ (Script.ofResult (c.require a >>= f)).edits, P e := by
  rw [edits_require]
  cases ha : c.text? a with
  | none => simp
  | some s => exact h s ha

/-- The columns that a change drops: the single one, then the nested ones. -/
theorem dropColumn_edits (t : String) (single : Option String) (ns : List NestedColumn) :
    (Script.andThen ⟨single.toList.map (.dropColumn t), none⟩
      (.overColumns (fun name _ => [.dropColumn t name]) ns)).edits =
      (single.toList ++ NestedColumn.leadingNames ns).map (.dropColumn t) := by
  simp [Script.andThen, Script.overColumns_edits, NestedColumn.leadingNames, ← List.map_eq_flatMap]

end Change

/-! ## Edits of the columns -/

namespace Change

/-- What an edit in the script for the columns says of the change. -/
inductive ColumnEdit (c : Change) : Edit → Prop
  | declare {t : String} {n : String × NestedColumn}
    (element : c.element = .createTable ∨ c.element = .addColumn)
    (table : c.text? .tableName = some t) (nested : n ∈ NestedColumn.leading c.nested) :
    ColumnEdit c (.declare t n.1 n.2.nullable (n.2.text? .type))
  | renameTable {old new : String} (element : c.element = .renameTable)
    (oldTable : c.text? .oldTableName = some old) (newTable : c.text? .newTableName = some new) :
    ColumnEdit c (.renameTable old new)
  | renameColumn {t old new : String} (element : c.element = .renameColumn)
    (table : c.text? .tableName = some t) (oldColumn : c.text? .oldColumnName = some old)
    (newColumn : c.text? .newColumnName = some new) : ColumnEdit c (.renameColumn t old new)
  | forbidNull {t n : String} (element : c.element = .addNotNullConstraint)
    (table : c.text? .tableName = some t) (column : c.text? .columnName = some n) :
    ColumnEdit c (.setNullable t n false)
  | allowNull {t n : String} (element : c.element = .dropNotNullConstraint)
    (table : c.text? .tableName = some t) (column : c.text? .columnName = some n) :
    ColumnEdit c (.setNullable t n true)
  | setType {t n : String} (element : c.element = .modifyDataType ∨ c.element = .resizeDataType)
    (table : c.text? .tableName = some t) (column : c.text? .columnName = some n) :
    ColumnEdit c (.setType t n (c.text? .newDataType))
  | dropTable {t : String} (element : c.element = .dropTable)
    (table : c.text? .tableName = some t) : ColumnEdit c (.dropTable t)
  | dropColumn {t n : String} (element : c.element = .dropColumn)
    (table : c.text? .tableName = some t)
    (column : n ∈ (c.text? .columnName).toList ++ NestedColumn.leadingNames c.nested) :
    ColumnEdit c (.dropColumn t n)

theorem columnEdit_of_mem_declareColumns {c : Change}
    (element : c.element = .createTable ∨ c.element = .addColumn) :
    ∀ e ∈ (Script.ofResult c.declareColumns).edits, c.ColumnEdit e := by
  refine forall_mem_edits_require fun t ht e he => ?_
  simp only [Script.ofResult, pure, Except.pure, Script.overColumns_edits, List.mem_flatMap,
    List.mem_singleton] at he
  obtain ⟨n, hn, rfl⟩ := he
  exact .declare element ht hn

theorem columnEdit_of_mem_columnScript (c : Change) :
    ∀ e ∈ c.columnScript.edits, c.ColumnEdit e := by
  unfold columnScript
  cases element : c.element with
  | createTable => exact columnEdit_of_mem_declareColumns (.inl element)
  | addColumn => exact columnEdit_of_mem_declareColumns (.inr element)
  | renameTable =>
    exact forall_mem_edits_require fun old ho => forall_mem_edits_require fun new hn =>
      List.forall_mem_singleton.mpr (.renameTable element ho hn)
  | renameColumn =>
    exact forall_mem_edits_require fun t ht => forall_mem_edits_require fun old ho =>
      forall_mem_edits_require fun new hn =>
        List.forall_mem_singleton.mpr (.renameColumn element ht ho hn)
  | addNotNullConstraint =>
    exact forall_mem_edits_require fun t ht => forall_mem_edits_require fun n hn =>
      List.forall_mem_singleton.mpr (.forbidNull element ht hn)
  | dropNotNullConstraint =>
    exact forall_mem_edits_require fun t ht => forall_mem_edits_require fun n hn =>
      List.forall_mem_singleton.mpr (.allowNull element ht hn)
  | modifyDataType =>
    exact forall_mem_edits_require fun t ht => forall_mem_edits_require fun n hn =>
      List.forall_mem_singleton.mpr (.setType (.inl element) ht hn)
  | resizeDataType =>
    exact forall_mem_edits_require fun t ht => forall_mem_edits_require fun n hn =>
      List.forall_mem_singleton.mpr (.setType (.inr element) ht hn)
  | dropTable =>
    exact forall_mem_edits_require fun t ht =>
      List.forall_mem_singleton.mpr (.dropTable element ht)
  | dropColumn =>
    refine forall_mem_edits_require fun t ht e he => ?_
    obtain ⟨n, hn, rfl⟩ := List.mem_map.mp
      (dropColumn_edits t (c.text? .columnName) c.nested ▸ he)
    exact .dropColumn element ht hn
  | _ => simp [Script.ofResult, pure, Except.pure, Script.nothing]

end Change

/-! ## Edits of the constraints -/

/-- The edits that touch constraints and nothing else. -/
def Edit.constrains : Edit → Bool
  | .attach .. | .detachNamed .. | .detachPrimaryKeys .. | .detachForeignKeys .. => true
  | _ => false

namespace Change

/-- Inline constraints are attached to their column. -/
theorem attach_of_mem_inlineEdits {t n : String} {k : InlineConstraints} {e : Edit}
    (he : e ∈ inlineEdits t n k) : ∃ name kind, e = .attach t n name kind := by
  simp only [inlineEdits, List.mem_append] at he
  rcases he with (he | he) | he <;> split at he <;> simp at he <;> exact ⟨_, _, he⟩

theorem constrains_of_mem_inlineEdits (t n : String) (k : InlineConstraints) :
    ∀ e ∈ inlineEdits t n k, e.constrains = true := by
  intro e he
  obtain ⟨name, kind, rfl⟩ := attach_of_mem_inlineEdits he
  rfl

theorem constrains_of_mem_inline (t : String) (ns : List NestedColumn) :
    ∀ e ∈ (Script.overColumns
      (fun name n => n.constraints?.toList.flatMap (inlineEdits t name)) ns).edits,
      e.constrains = true := by
  refine Script.forall_mem_overColumns (fun name n e he => ?_) ns
  obtain ⟨k, -, he⟩ := List.mem_flatMap.mp he
  exact constrains_of_mem_inlineEdits t name k e he

theorem constrains_of_mem_attachAll (t : String) (columns name : Option String)
    (kind : ConstraintKind) : ∀ e ∈ (attachAll t columns name kind).edits, e.constrains = true := by
  intro e he
  obtain ⟨n, -, rfl⟩ := List.mem_map.mp he
  rfl

theorem constrains_of_mem_detachByName (c : Change) (owner target : Attribute) :
    ∀ e ∈ (Script.ofResult (c.detachByName owner target)).edits, e.constrains = true := by
  refine forall_mem_edits_require fun t _ e he => ?_
  obtain ⟨n, -, rfl⟩ := List.mem_map.mp he
  rfl

theorem constrains_of_mem_constraintScript (c : Change) :
    ∀ e ∈ c.constraintScript.edits, e.constrains = true := by
  unfold constraintScript
  split
  · exact forall_mem_edits_require fun t _ => constrains_of_mem_inline t _
  · exact forall_mem_edits_require fun t _ => constrains_of_mem_inline t _
  · refine forall_mem_edits_require fun t _ =>
      Script.forall_mem_overColumns (fun name n e he => ?_) _
    rw [List.mem_singleton.mp he]
    rfl
  · exact forall_mem_edits_require fun t _ => constrains_of_mem_attachAll _ _ _ _
  · exact forall_mem_edits_require fun t _ => constrains_of_mem_attachAll _ _ _ _
  · exact forall_mem_edits_require fun t _ => constrains_of_mem_attachAll _ _ _ _
  · exact constrains_of_mem_detachByName _ _ _
  · exact constrains_of_mem_detachByName _ _ _
  · exact constrains_of_mem_detachByName _ _ _
  · refine forall_mem_edits_require fun t _ e he => ?_
    rw [List.mem_singleton.mp he]
    rfl
  · refine forall_mem_edits_require fun t _ e he => ?_
    rw [List.mem_singleton.mp he]
    rfl
  · simp [Script.ofResult, pure, Except.pure, Script.nothing]

theorem mem_script {c : Change} {e : Edit} (h : e ∈ c.script.edits) :
    e ∈ c.columnScript.edits ∨ e ∈ c.constraintScript.edits := by
  rw [script, Script.andThen_edits, List.mem_append] at h
  refine h.imp_right fun h => ?_
  split at h
  · exact h
  · simp at h

end Change

/-! ## The scripts of some changes -/

namespace Change

variable {c : Change} {t n : String}

theorem columnScript_renameTable (he : c.element = .renameTable) :
    c.columnScript.edits =
      match c.text? .oldTableName, c.text? .newTableName with
      | some old, some new => [.renameTable old new]
      | _, _ => [] := by
  unfold columnScript
  rw [he]
  simp only [edits_require]
  cases c.text? .oldTableName <;> cases c.text? .newTableName <;> rfl

theorem columnScript_renameColumn (he : c.element = .renameColumn) :
    c.columnScript.edits =
      match c.text? .tableName, c.text? .oldColumnName, c.text? .newColumnName with
      | some t, some old, some new => [.renameColumn t old new]
      | _, _, _ => [] := by
  unfold columnScript
  rw [he]
  simp only [edits_require]
  cases c.text? .tableName <;> cases c.text? .oldColumnName <;> cases c.text? .newColumnName <;> rfl

/-- A rename does not touch the constraints. -/
theorem script_renames (h : c.element = .renameTable ∨ c.element = .renameColumn) :
    c.script.edits = c.columnScript.edits := by
  have hnone : c.constraintScript.edits = [] := by
    unfold constraintScript
    rcases h with h | h <;> rw [h] <;> rfl
  rw [script, Script.andThen_edits, hnone, ite_self, List.append_nil]

theorem edits_renameTable {old new : String} (he : c.element = .renameTable)
    (ho : c.text? .oldTableName = some old) (hn : c.text? .newTableName = some new) :
    c.script.edits = [.renameTable old new] := by
  rw [script_renames (.inl he), columnScript_renameTable he, ho, hn]

theorem edits_renameColumn {old new : String} (he : c.element = .renameColumn)
    (ht : c.text? .tableName = some t) (ho : c.text? .oldColumnName = some old)
    (hn : c.text? .newColumnName = some new) : c.script.edits = [.renameColumn t old new] := by
  rw [script_renames (.inr he), columnScript_renameColumn he, ht, ho, hn]

theorem columnScript_addNotNullConstraint (he : c.element = .addNotNullConstraint)
    (ht : c.text? .tableName = some t) (hn : c.text? .columnName = some n) :
    c.columnScript.edits = [.setNullable t n false] := by
  unfold columnScript
  rw [he]
  simp only [edits_require, ht, hn]
  rfl

theorem columnScript_dropNotNullConstraint (he : c.element = .dropNotNullConstraint)
    (ht : c.text? .tableName = some t) (hn : c.text? .columnName = some n) :
    c.columnScript.edits = [.setNullable t n true] := by
  unfold columnScript
  rw [he]
  simp only [edits_require, ht, hn]
  rfl

theorem columnScript_dropTable (he : c.element = .dropTable) (ht : c.text? .tableName = some t) :
    c.columnScript.edits = [.dropTable t] := by
  unfold columnScript
  rw [he]
  simp only [edits_require, ht]
  rfl

theorem columnScript_dropColumn (he : c.element = .dropColumn) (ht : c.text? .tableName = some t) :
    c.columnScript.edits =
      ((c.text? .columnName).toList ++ NestedColumn.leadingNames c.nested).map (.dropColumn t) := by
  unfold columnScript
  rw [he]
  simp only [edits_require, ht]
  exact dropColumn_edits t (c.text? .columnName) c.nested

theorem columnScript_declares (he : c.element = .createTable ∨ c.element = .addColumn)
    (ht : c.text? .tableName = some t) :
    c.columnScript =
      .overColumns (fun name n => [.declare t name n.nullable (n.text? .type)]) c.nested := by
  unfold columnScript
  rcases he with he | he <;> rw [he] <;> simp only [declareColumns, require, ht] <;> rfl

theorem columns_of_declares (he : c.element = .createTable ∨ c.element = .addColumn) :
    c.columns = c.nested := by
  rcases he with he | he <;> simp [columns, he, Element.nestsColumns]

/-- A change without failure names all columns it declares. -/
theorem named_of_declares (he : c.element = .createTable ∨ c.element = .addColumn)
    (ht : c.text? .tableName = some t) (h : c.script.failure = none) :
    ∀ x ∈ c.nested, x.name?.isSome := by
  have hc : c.columnScript.failure = none := Script.failure_eq_none_of_andThen h
  rw [columnScript_declares he ht, Script.overColumns_failure] at hc
  split at hc
  · next hnamed => exact hnamed
  · cases hc

theorem edits_of_declares (he : c.element = .createTable ∨ c.element = .addColumn)
    (ht : c.text? .tableName = some t) :
    c.columnScript.edits = (NestedColumn.leading c.nested).map fun p =>
      .declare t p.1 p.2.nullable (p.2.text? .type) := by
  rw [columnScript_declares he ht, Script.overColumns_edits, List.map_eq_flatMap]

end Change

end MigrationAudit
