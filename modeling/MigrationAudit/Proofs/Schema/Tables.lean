import Mathlib.Data.List.Lattice
import MigrationAudit.Proofs.Schema.Columns
import MigrationAudit.Proofs.Schema.Scripts

/-!
# Tables that changes touch

A change touches the tables that it names as its table, its base table, or the old or new name of a
table, and its edits touch no others (`Change.tables_subset_of_mem_script`).  What an edit does
outside some tables is nothing if it touches only these (`Edit.outside_onColumns_of_subset`); if it
touches none of them, it does there what it would do if they did not exist
(`Edit.outside_onColumns_of_disjoint`).
-/

namespace MigrationAudit

/-! ## Tables and dropped names -/

namespace Edit

def tables : Edit → List String
  | .declare t _ _ _ => [t]
  | .renameTable old new => [old, new]
  | .renameColumn t _ _ => [t]
  | .setNullable t _ _ => [t]
  | .setType t _ _ => [t]
  | .dropTable t => [t]
  | .dropColumn t _ => [t]
  | .attach t _ _ _ => [t]
  | .detachNamed t _ => [t]
  | .detachPrimaryKeys t _ => [t]
  | .detachForeignKeys t => [t]

/-- The name under which the edit looks for constraints to drop. -/
def droppedName? : Edit → Option String
  | .detachNamed _ name => some name
  | .detachPrimaryKeys _ name => name
  | _ => none

def attaches : Edit → Bool
  | .attach .. => true
  | _ => false

theorem draws_of_not_attaches {e : Edit} (h : e.attaches = false) (cs : List Column) :
    e.draws cs = 0 := by
  cases e <;> first | rfl | cases h

end Edit

/-- Whether changes of this element put constraints on columns. -/
def Element.attaches : Element → Bool
  | .createTable | .addColumn | .createIndex | .addUniqueConstraint | .addPrimaryKey
  | .addForeignKeyConstraint => true
  | _ => false

namespace Change

/-- The attributes that name a table a change touches. -/
def tableAttributes : List Attribute := [.tableName, .baseTableName, .oldTableName, .newTableName]

/-- The tables that the change touches. -/
def tables (c : Change) : List String := tableAttributes.filterMap c.text?

/-- The names under which the change looks for constraints to drop. -/
def droppedNames (c : Change) : List String := c.script.edits.filterMap Edit.droppedName?

variable {c : Change} {e : Edit} {t : String}

theorem mem_tables {a : Attribute} (ha : a ∈ tableAttributes) (h : c.text? a = some t) :
    t ∈ c.tables :=
  List.mem_filterMap.mpr ⟨a, ha, h⟩

theorem mem_droppedNames {w : String} (he : e ∈ c.script.edits) (hw : e.droppedName? = some w) :
    w ∈ c.droppedNames :=
  List.mem_filterMap.mpr ⟨e, he, hw⟩

theorem ColumnEdit.tables_subset (h : c.ColumnEdit e) : e.tables ⊆ c.tables := by
  cases h with
  | renameTable _ old new =>
    have hold := mem_tables (by decide) old
    have hnew := mem_tables (by decide) new
    simp [Edit.tables, hold, hnew]
  | declare _ table | renameColumn _ table | forbidNull _ table | allowNull _ table
  | setType _ table | dropTable _ table | dropColumn _ table =>
    simpa [Edit.tables] using mem_tables (by decide) table

theorem ColumnEdit.not_attaches (h : c.ColumnEdit e) : e.attaches = false := by
  cases h <;> rfl

theorem ColumnEdit.droppedName?_eq_none (h : c.ColumnEdit e) : e.droppedName? = none := by
  cases h <;> rfl

/-- What an edit in the script for the constraints says of the change: it works on one table that
the change touches, and attaches constraints only if the element does. -/
structure ConstraintEdit (c : Change) (e : Edit) : Prop where
  table : ∃ t ∈ c.tables, e.tables = [t]
  attaches : e.attaches = c.element.attaches

theorem constraintEdit_of_mem_inline {ns : List NestedColumn} (ht : c.text? .tableName = some t)
    (element : c.element.attaches = true) :
    ∀ e ∈ (Script.overColumns
      (fun name n => n.constraints?.toList.flatMap (inlineEdits t name)) ns).edits,
      c.ConstraintEdit e := by
  refine Script.forall_mem_overColumns (fun name n e he => ?_) ns
  obtain ⟨k, -, he⟩ := List.mem_flatMap.mp he
  obtain ⟨_, _, rfl⟩ := attach_of_mem_inlineEdits he
  exact ⟨⟨t, mem_tables (by decide) ht, rfl⟩, element.symm⟩

theorem constraintEdit_of_mem_attachAll {a : Attribute} (ha : a ∈ tableAttributes)
    (ht : c.text? a = some t) (element : c.element.attaches = true)
    (columns name : Option String) (kind : ConstraintKind) :
    ∀ e ∈ (attachAll t columns name kind).edits, c.ConstraintEdit e := by
  intro e he
  obtain ⟨n, -, rfl⟩ := List.mem_map.mp he
  exact ⟨⟨t, mem_tables ha ht, rfl⟩, element.symm⟩

theorem constraintEdit_of_mem_detachByName {owner : Attribute} (ha : owner ∈ tableAttributes)
    (element : c.element.attaches = false) (target : Attribute) :
    ∀ e ∈ (Script.ofResult (c.detachByName owner target)).edits, c.ConstraintEdit e := by
  refine forall_mem_edits_require fun t ht e he => ?_
  obtain ⟨n, -, rfl⟩ := List.mem_map.mp he
  exact ⟨⟨t, mem_tables ha ht, rfl⟩, element.symm⟩

theorem constraintEdit_of_mem_constraintScript (c : Change) :
    ∀ e ∈ c.constraintScript.edits, c.ConstraintEdit e := by
  unfold constraintScript
  cases element : c.element with
  | createTable | addColumn =>
    exact forall_mem_edits_require fun t ht => constraintEdit_of_mem_inline ht (by rw [element]; rfl)
  | createIndex =>
    refine forall_mem_edits_require fun t ht =>
      Script.forall_mem_overColumns (fun name n e he => ?_) _
    rw [List.mem_singleton.mp he]
    exact ⟨⟨t, mem_tables (by decide) ht, rfl⟩, by rw [element]; rfl⟩
  | addUniqueConstraint | addPrimaryKey | addForeignKeyConstraint =>
    exact forall_mem_edits_require fun t ht =>
      constraintEdit_of_mem_attachAll (by decide) ht (by rw [element]; rfl) _ _ _
  | dropIndex | dropUniqueConstraint | dropForeignKeyConstraint =>
    exact constraintEdit_of_mem_detachByName (by decide) (by rw [element]; rfl) _
  | dropPrimaryKey | dropAllForeignKeyConstraints =>
    refine forall_mem_edits_require fun t ht e he => ?_
    rw [List.mem_singleton.mp he]
    exact ⟨⟨t, mem_tables (by decide) ht, rfl⟩, by rw [element]; rfl⟩
  | _ => simp [Script.ofResult, pure, Except.pure, Script.nothing]

theorem tables_subset_of_mem_script (he : e ∈ c.script.edits) : e.tables ⊆ c.tables := by
  rcases mem_script he with he | he
  · exact (columnEdit_of_mem_columnScript c e he).tables_subset
  · obtain ⟨t, ht, heq⟩ := (constraintEdit_of_mem_constraintScript c e he).table
    simpa [heq] using ht

/-- A change that attaches constraints drops none by name. -/
theorem droppedNames_eq_nil (h : c.element.attaches = true) : c.droppedNames = [] := by
  refine List.filterMap_eq_nil_iff.mpr fun e he => ?_
  rcases mem_script he with he | he
  · exact (columnEdit_of_mem_columnScript c e he).droppedName?_eq_none
  · have hatt := (constraintEdit_of_mem_constraintScript c e he).attaches
    rw [h] at hatt
    cases e <;> first | rfl | cases hatt

theorem not_attaches_of_mem_script (h : c.element.attaches = false) (he : e ∈ c.script.edits) :
    e.attaches = false := by
  rcases mem_script he with he | he
  · exact (columnEdit_of_mem_columnScript c e he).not_attaches
  · exact (constraintEdit_of_mem_constraintScript c e he).attaches.trans h

end Change

/-! ## The entries of some tables -/

def Identity.table? : Identity → Option String
  | .column t _ => some t
  | .constraint _ => none

namespace Store

/-- The entries of the tables for which `p` holds, in their order. -/
def within (s : Store) (p : String → Bool) : Store :=
  ⟨s.entries.filter fun x => x.1.table?.any p⟩

theorem within_ofColumns (cs : List Column) (p : String → Bool) :
    (ofColumns cs).within p = ofColumns (cs.filter fun c => p c.table) := by
  simp only [within, ofColumns, List.filter_map]
  rfl

end Store

/-! ## Columns outside some tables -/

/-- The columns of other tables. -/
def outside (tables : List String) (cs : List Column) : List Column :=
  cs.filter fun c => c.table ∉ tables

theorem outside_nil (cs : List Column) : outside [] cs = cs := by
  simp [outside]

theorem mem_outside {tables : List String} {cs : List Column} {c : Column} :
    c ∈ outside tables cs ↔ c ∈ cs ∧ c.table ∉ tables := by
  simp [outside]

section Outside

variable {tables : List String}

theorem table_eq_of_identity_eq {c d : Column} (h : c.identity = d.identity) :
    c.table = d.table := by
  simp only [Column.identity, Identity.column.injEq] at h
  exact h.1

/-- A filter that no column of an identity passes does not see one placed there. -/
theorem filter_placedIn {p : Column → Bool} {c : Column}
    (hp : ∀ d : Column, d.identity = c.identity → p d = false) (cs : List Column) :
    (c.placedIn cs).filter p = cs.filter p := by
  have hc : p c = false := hp c rfl
  induction cs with
  | nil => simp [Column.placedIn, hc]
  | cons d ds ih =>
    unfold Column.placedIn
    split
    · next h => simp [hc, hp d h]
    · rw [List.filter_cons, List.filter_cons, ih]

theorem outside_placedIn_of_mem {c : Column} (hc : c.table ∈ tables) (cs : List Column) :
    outside tables (c.placedIn cs) = outside tables cs :=
  filter_placedIn (fun d hd => by simp [table_eq_of_identity_eq hd, hc]) cs

theorem outside_placedIn_of_not_mem {c : Column} (hc : c.table ∉ tables) (cs : List Column) :
    outside tables (c.placedIn cs) = c.placedIn (outside tables cs) := by
  induction cs with
  | nil => simp [Column.placedIn, outside, hc]
  | cons d ds ih =>
    by_cases h : d.identity = c.identity
    · have hd : d.table ∉ tables := table_eq_of_identity_eq h ▸ hc
      simp [Column.placedIn, outside, h, hc, hd]
    · by_cases hd : d.table ∈ tables
      · simpa [Column.placedIn, outside, h, hd] using ih
      · simpa [Column.placedIn, outside, h, hd] using ih

theorem outside_filter (p : Column → Bool) (cs : List Column) :
    outside tables (cs.filter p) = (outside tables cs).filter p :=
  List.filter_comm _ _ cs

theorem outside_map {f : Column → Column} (hf : ∀ c, (f c).table ∈ tables ↔ c.table ∈ tables)
    (cs : List Column) : outside tables (cs.map f) = (outside tables cs).map f := by
  unfold outside
  rw [List.filter_map]
  congr 1
  exact List.filter_congr fun c _ => by simp [hf c]

/-- A filter that lets only columns of other tables pass sees no difference. -/
theorem filter_outside {p : Column → Bool} (hp : ∀ c, p c = true → c.table ∉ tables)
    (cs : List Column) : (outside tables cs).filter p = cs.filter p := by
  unfold outside
  rw [List.filter_filter]
  refine List.filter_congr fun c _ => ?_
  by_cases hc : p c = true
  · simp [hc, hp c hc]
  · simp [hc]

theorem map_outside_eq_self {f : Column → Column} (hf : ∀ c, c.table ∉ tables → f c = c)
    (cs : List Column) : (outside tables cs).map f = outside tables cs :=
  (List.map_congr_left fun c hc => hf c (mem_outside.mp hc).2).trans (List.map_id _)

end Outside

namespace Edit

variable (naming : Naming) (drawn : Nat) {e : Edit} {tables : List String}

theorem table_mem_of_matches {c : Column} (h : c.identity.matches e.query = true) :
    c.table ∈ e.tables := by
  cases e <;> simp_all [query, Edit.tables]

/-- An edit changes the table of a column only to one that it touches. -/
theorem table_revise_mem {c : Column} (h : c.table ∈ e.tables) :
    (e.revise naming drawn c).table ∈ e.tables := by
  cases e <;> first | exact h | simp [revise, Edit.tables]

theorem table_updated {c : Column} (h : e.tables ⊆ tables ∨ List.Disjoint e.tables tables) :
    (Column.updated e.query (e.revise naming drawn) c).table ∈ tables ↔ c.table ∈ tables := by
  unfold Column.updated
  split
  · next hm =>
    have hold := table_mem_of_matches hm
    have hnew := table_revise_mem naming drawn hold
    rcases h with h | h
    · exact iff_of_true (h hnew) (h hold)
    · exact iff_of_false (h hnew) (h hold)
  · rfl

theorem updated_eq_self {c : Column} (h : c.table ∉ e.tables) (f : Column → Column) :
    Column.updated e.query f c = c :=
  if_neg fun hm => h (table_mem_of_matches hm)

theorem outside_onColumns_of_subset (h : e.tables ⊆ tables) (cs : List Column) :
    outside tables (e.onColumns naming drawn cs) = outside tables cs := by
  have kept : ∀ q, (∀ c : Column, c.identity.matches q = true → c.table ∈ tables) →
      outside tables (cs.filter fun c => !c.identity.matches q) = outside tables cs := by
    intro q hq
    rw [outside_filter, List.filter_eq_self]
    intro c hc
    have hno := mt (hq c) (mem_outside.mp hc).2
    simpa using hno
  have revised : outside tables (cs.map (Column.updated e.query (e.revise naming drawn))) =
      outside tables cs := by
    rw [outside_map fun c => table_updated naming drawn (.inl h)]
    exact map_outside_eq_self (fun c hc => updated_eq_self (fun hm => hc (h hm)) _) cs
  cases e with
  | declare t n nullable declaration =>
    exact outside_placedIn_of_mem (c := declared t n nullable declaration)
      (h List.mem_cons_self) cs
  | dropTable t => exact kept _ fun c hc => h (table_mem_of_matches (e := .dropTable t) hc)
  | dropColumn t n => exact kept _ fun c hc => h (table_mem_of_matches (e := .dropColumn t n) hc)
  | _ => exact revised

theorem outside_onColumns_of_disjoint (h : List.Disjoint e.tables tables) (cs : List Column) :
    outside tables (e.onColumns naming drawn cs) =
      e.onColumns naming drawn (outside tables cs) := by
  have revised : outside tables (cs.map (Column.updated e.query (e.revise naming drawn))) =
      (outside tables cs).map (Column.updated e.query (e.revise naming drawn)) :=
    outside_map (fun c => table_updated naming drawn (.inr h)) cs
  cases e with
  | declare t n nullable declaration =>
    exact outside_placedIn_of_not_mem (c := declared t n nullable declaration)
      (h List.mem_cons_self) cs
  | dropTable t => exact outside_filter _ cs
  | dropColumn t n => exact outside_filter _ cs
  | _ => exact revised

/-- Whether a name is drawn shows in the other tables alone. -/
theorem draws_outside (h : List.Disjoint e.tables tables) (cs : List Column) :
    e.draws (outside tables cs) = e.draws cs := by
  have any : ∀ t n, t ∉ tables →
      (outside tables cs).any (fun c => c.identity.matches (.column t n)) =
        cs.any fun c => c.identity.matches (.column t n) := by
    intro t n ht
    rw [Bool.eq_iff_iff, List.any_eq_true, List.any_eq_true]
    refine ⟨fun ⟨c, hc, hm⟩ => ⟨c, (mem_outside.mp hc).1, hm⟩, fun ⟨c, hc, hm⟩ => ?_⟩
    exact ⟨c, mem_outside.mpr ⟨hc, (identity_matches_column.mp hm).1 ▸ ht⟩, hm⟩
  cases e with
  | attach t n name kind =>
    cases name with
    | none => simp only [draws, any t n (h List.mem_cons_self)]
    | some name => rfl
  | _ => rfl

end Edit

end MigrationAudit
