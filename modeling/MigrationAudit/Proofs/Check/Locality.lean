import MigrationAudit.Proofs.Check.Places
import MigrationAudit.Proofs.Schema.Renamed

/-!
# What the verdict on a change depends on

A check that looks at one change alone sees the change, what an issue says of its place, whether its
neighbours declare its column or deny null to its tenant, and the known columns of the tables that
the change touches.  So its verdict is the same at two places that are alike in this
(`ChangePlace.Alike`) and with two stores that agree on these tables (`Store.Alike`), up to the names
drawn for constraints, and whatever is remembered (`ChangeCheck.run_congr`).
-/

namespace MigrationAudit

/-! ## Findings up to drawn names -/

def Cause.renamed (f : String → String) : Cause → Cause
  | renamedWhileReferred table column constraints =>
    renamedWhileReferred table column (constraints.map (Constraint.renamed f))
  | modifiedWhileReferred table column constraints =>
    modifiedWhileReferred table column (constraints.map (Constraint.renamed f))
  | cause => cause

def Issue.renamed (f : String → String) (i : Issue) : Issue := { i with cause := i.cause.renamed f }

def Findings.renamed (f : String → String) (found : Findings) : Findings :=
  found.map (List.map (Issue.renamed f))

theorem Cause.masked_eq_renamed : masked = renamed mask := by
  funext cause
  cases cause <;> simp only [masked, renamed, Constraint.masked_eq_renamed]

theorem Issue.masked_eq_renamed : masked = renamed mask := by
  funext i
  simp only [masked, renamed, Cause.masked_eq_renamed]

theorem Cause.renamed_id : renamed id = id := by
  funext cause
  cases cause <;> simp only [renamed, Constraint.renamed_id, List.map_id, id]

theorem Issue.renamed_id : renamed id = id := by
  funext i
  simp only [renamed, Cause.renamed_id, id]

/-! ## Stores that agree on some tables -/

def Query.tableName : Query → String
  | .column t _ => t
  | .table t => t

/-- Outside the tables the stores hold the same columns up to the renaming. -/
def Store.Alike (tables : List String) (f : String → String) (store store' : Store) : Prop :=
  ∀ q : Query, q.tableName ∉ tables →
    (store.columns q).map (Column.renamed f) = (store'.columns q).map (Column.renamed f)

section Stores

variable {tables : List String} {f : String → String}

theorem Schema.alike_of_sight {s s' : Schema} (hs : s.Columnar) (hs' : s'.Columnar)
    (h : s.sight tables f = s'.sight tables f) : s.store.Alike tables f s'.store := by
  intro q hq
  have found : ∀ r : Schema, r.Columnar → (r.store.columns q).map (Column.renamed f) =
      (r.sight tables f).filter fun c => c.identity.matches q := by
    intro r hr
    have hout : ∀ c : Column, c.identity.matches q = true → c.table ∉ tables := by
      intro c hm
      cases q with
      | column t n => exact (identity_matches_column.mp hm).1 ▸ hq
      | table t => exact identity_matches_table.mp hm ▸ hq
    rw [hr.columns_eq, ← filter_outside hout, sight, List.filter_map]
    rfl
  rw [found s hs, found s' hs', h]

theorem Store.Alike.column?_eq {store store' : Store} (h : store.Alike tables f store')
    {t : String} (ht : t ∉ tables) (n : String) :
    (store.column? t n).map (Column.renamed f) = (store'.column? t n).map (Column.renamed f) := by
  rw [Store.column?, Store.column?, ← List.head?_map, ← List.head?_map, h (.column t n) ht]

end Stores

/-! ## Places that are alike -/

/-- Both places hold the same change, an issue says the same of them, and their neighbours decide
alike about the column and the tenant of the change. -/
structure ChangePlace.Alike (p p' : ChangePlace) : Prop where
  change : p'.change = p.change
  issue : ∀ element field cause,
    Issue.ofElement p' element field cause = Issue.ofElement p element field cause
  declared : ∀ column, p'.earlier.any (Check.declaresColumn (p.change.text? .tableName) column) =
    p.earlier.any (Check.declaresColumn (p.change.text? .tableName) column)
  denied : p'.later.any (Check.deniesNullTenant (p.change.text? .tableName)) =
    p.later.any (Check.deniesNullTenant (p.change.text? .tableName))

theorem ChangePlace.alike_refl (p : ChangePlace) : p.Alike p :=
  ⟨rfl, fun _ _ _ => rfl, fun _ => rfl, rfl⟩

theorem ChangeCheck.run_memory {check : ChangeCheck} (h : check.scope = .single) (policy : Policy)
    (store : Store) (place : ChangePlace) (memory : Memory) :
    (check.run policy store place memory).2 = memory := by
  cases check <;> first | rfl | cases h

namespace ChangePlace.Alike

variable {p p' : ChangePlace}

theorem carriedBy_id (h : p.Alike p') : p.CarriedBy id p' where
  change := h.change
  issue field cause := by simp only [Issue.ofChange, h.change, h.issue, id]

theorem columnsCarriedBy_id (h : p.Alike p') : p.ColumnsCarriedBy id p' := h.issue "column"

/-- A check of one change finds the same at places that are alike, whatever is remembered. -/
theorem run (h : p.Alike p') {check : ChangeCheck} (hcheck : check.scope = .single)
    (policy : Policy) (store : Store) (memory memory' : Memory) :
    (check.run policy store p' memory').1 = (check.run policy store p memory).1 := by
  have blind : (check.run policy store p memory').1 = (check.run policy store p memory).1 := by
    cases check <;> first | rfl | cases hcheck
  have carried : (check.run policy store p' memory').1 =
      List.map id <$> (check.run policy store p memory').1 := by
    cases haround : check.looksAround with
    | false =>
      rw [h.carriedBy_id.run_of_not_looksAround policy store memory'
        (fun _ => h.columnsCarriedBy_id) haround]
    | true =>
      cases check with
      | notNullWithoutDefault =>
        exact congrArg Except.ok
          (h.carriedBy_id.notNullWithoutDefault h.columnsCarriedBy_id h.declared)
      | nullableTenant =>
        exact congrArg Except.ok (h.carriedBy_id.nullableTenant h.columnsCarriedBy_id h.denied)
      | insertedElsewhere => cases hcheck
      | _ => cases haround
  rw [carried, blind, List.map_id_fun, id_map]

end ChangePlace.Alike

/-! ## Checks that look at the store -/

section Stores

variable {tables : List String} {f : String → String} {store store' : Store} {c : Change}
  {table : String}

theorem Element.mem_tableAttributes {e : Element} {a : Attribute}
    (h : e.tableAttribute? = some a) : a ∈ Change.tableAttributes := by
  cases e <;> simp_all [tableAttribute?, Change.tableAttributes]

theorem Change.mem_tables_of_table? (h : c.table? = some table) : table ∈ c.tables := by
  obtain ⟨a, ha, ht⟩ := Option.bind_eq_some_iff.mp h
  exact mem_tables (Element.mem_tableAttributes ha) ht

/-- What follows the look-up of a table sees a table that the change touches. -/
theorem Change.require_bind_congr {α : Type} {k k' : String → Except Failure α}
    (h : ∀ t ∈ c.tables, k t = k' t) :
    (c.require .tableName >>= k) = (c.require .tableName >>= k') := by
  unfold require
  cases ht : c.text? .tableName with
  | none => rfl
  | some t => exact h t (mem_tables (by decide) ht)

namespace Check

theorem overflow?_renamed (f : String → String) (limit : Nat) : ∀ (total : Nat) (cs : List Column),
    overflow? limit total (cs.map (Column.renamed f)) =
      (overflow? limit total cs).map (Option.map (Column.renamed f))
  | _, [] => rfl
  | total, c :: cs => by
    have hsize : Storage.rowSize (c.renamed f) = Storage.rowSize c := rfl
    simp only [List.map_cons, overflow?, hsize]
    rcases Storage.rowSize c with failure | size
    · rfl
    · by_cases hlt : limit < Storage.saturatingAdd total size
      · simp only [bind, Except.bind, hlt, if_true]
        rfl
      · simpa only [bind, Except.bind, hlt, if_false] using
          overflow?_renamed f limit (Storage.saturatingAdd total size) cs

theorem rowBudget_congr (h : store.Alike tables f store') (place : ChangePlace)
    (hd : List.Disjoint place.change.tables tables) (limit : Nat) :
    rowBudget limit store place = rowBudget limit store' place := by
  unfold rowBudget
  cases ht : place.change.table? with
  | none => rfl
  | some table =>
    -- the column that is too much shows by its name alone
    have renamed : ∀ cs, (overflow? limit 0 cs).map (Option.map (·.name)) =
        (overflow? limit 0 (cs.map (Column.renamed f))).map (Option.map (·.name)) := by
      intro cs
      rw [overflow?_renamed]
      rcases overflow? limit 0 cs with failure | column
      · rfl
      · cases column <;> rfl
    have columns := h (.table table) (hd (Change.mem_tables_of_table? ht))
    have names : (overflow? limit 0 (store.columns (.table table))).map (Option.map (·.name)) =
        (overflow? limit 0 (store'.columns (.table table))).map (Option.map (·.name)) := by
      rw [renamed, columns, ← renamed]
    have issues : ∀ r : Except Failure (Option Column), (do
          let column ← r
          return (column.toList.map fun c => Cause.rowTooLarge table c.name limit).map
            (Issue.ofChange place (some "column")) : Findings) = do
          let name ← r.map (Option.map (·.name))
          return (name.toList.map fun n => Cause.rowTooLarge table n limit).map
            (Issue.ofChange place (some "column")) := by
      rintro (failure | column)
      · rfl
      · cases column <;> rfl
    simp only [issues, names]

theorem keyTotal_renamed (f : String → String) : ∀ (total : Nat) (cs : List Column),
    keyTotal total (cs.map (Column.renamed f)) = keyTotal total cs
  | _, [] => rfl
  | total, c :: cs => by
    have hsize : Storage.keySize (c.renamed f) = Storage.keySize c := rfl
    simp only [List.map_cons, keyTotal, hsize, keyTotal_renamed f]

theorem keyBudget_congr (h : store.Alike tables f store') (place : ChangePlace)
    (hd : List.Disjoint place.change.tables tables) (limit : Nat) :
    keyBudget limit store place = keyBudget limit store' place := by
  simp only [keyBudget]
  split
  · refine Change.require_bind_congr fun table ht => ?_
    have columns : (indexedColumns store table place.change).map (Column.renamed f) =
        (indexedColumns store' table place.change).map (Column.renamed f) := by
      simp only [indexedColumns, List.map_filterMap, h.column?_eq (hd ht)]
    rw [← keyTotal_renamed f, columns, keyTotal_renamed]
  · rfl

theorem nullableUnique_congr (h : store.Alike tables f store') (place : ChangePlace)
    (hd : List.Disjoint place.change.tables tables) :
    nullableUnique store place = nullableUnique store' place := by
  simp only [nullableUnique]
  split
  · refine Change.require_bind_congr fun table ht => ?_
    have nullable : ∀ name, (store.column? table name).any (·.nullable) =
        (store'.column? table name).any (·.nullable) := by
      intro name
      have blind : ∀ o : Option Column,
          o.any (·.nullable) = (o.map (Column.renamed f)).any (·.nullable) := by
        rintro (_ | c) <;> rfl
      rw [blind, h.column?_eq (hd ht), ← blind]
    simp only [nullable]
  · rfl

theorem onChange_renamed (f : String → String) (place : ChangePlace) (a : Option Attribute)
    (cause : Option Cause) : (onChange place a cause).map (Issue.renamed f) =
      onChange place a (cause.map (Cause.renamed f)) := by
  cases cause <;> rfl

theorem causeIf_renamed (f : String → String) (condition : Bool) (cause : Cause) :
    (causeIf condition cause).map (Cause.renamed f) = causeIf condition (cause.renamed f) := by
  cases condition <;> rfl

/-- A cause that is found with a column of the change, if it shows no more of the column than is
known up to drawn names. -/
theorem columnCause_congr (h : store.Alike tables f store') (hd : List.Disjoint c.tables tables)
    (a : Attribute) {g : String → String → Column → Option Cause}
    (hg : ∀ table name column,
      (g table name column).map (Cause.renamed f) = g table name (column.renamed f)) :
    (do
      let table ← c.require .tableName
      let name ← c.require a
      return (store.column? table name).bind (g table name) :
        Except Failure (Option Cause)).map (Option.map (Cause.renamed f)) =
      (do
        let table ← c.require .tableName
        let name ← c.require a
        return (store'.column? table name).bind (g table name) :
          Except Failure (Option Cause)).map (Option.map (Cause.renamed f)) := by
  unfold Change.require
  cases ht : c.text? .tableName with
  | none => rfl
  | some t =>
    cases c.text? a with
    | none => rfl
    | some n =>
      have shown : ∀ o : Option Column, (o.bind (g t n)).map (Cause.renamed f) =
          (o.map (Column.renamed f)).bind (g t n) := by
        rintro (_ | column)
        · rfl
        · exact hg t n column
      have look := h.column?_eq (hd (Change.mem_tables (by decide) ht)) n
      refine congrArg Except.ok ?_
      rw [shown, shown, look]

theorem renamedCause?_congr (h : store.Alike tables f store')
    (hd : List.Disjoint c.tables tables) :
    (renamedCause? store c).map (Option.map (Cause.renamed f)) =
      (renamedCause? store' c).map (Option.map (Cause.renamed f)) := by
  refine columnCause_congr h hd .newColumnName fun table name column => ?_
  simp [causeIf_renamed, Cause.renamed, Column.renamed]

theorem modifiedCause?_congr (h : store.Alike tables f store')
    (hd : List.Disjoint c.tables tables) :
    (modifiedCause? store c).map (Option.map (Cause.renamed f)) =
      (modifiedCause? store' c).map (Option.map (Cause.renamed f)) := by
  refine columnCause_congr h hd .columnName fun table name column => ?_
  have kept : keepsType (column.renamed f) = keepsType column := rfl
  simp [causeIf_renamed, Cause.renamed, Column.renamed, ← kept]

theorem referredColumn_congr (h : store.Alike tables f store') (place : ChangePlace)
    (hd : List.Disjoint place.change.tables tables) :
    (referredColumn store place).renamed f = (referredColumn store' place).renamed f := by
  have issues : ∀ r : Except Failure (Option Cause), Findings.renamed f (do
        let cause ← r
        return onChange place none cause) = (r.map (Option.map (Cause.renamed f))).map
          (onChange place none) := by
    rintro (failure | cause)
    · rfl
    · exact congrArg Except.ok (onChange_renamed f place none cause)
  have same : ∀ {r r' : Except Failure (Option Cause)},
      r.map (Option.map (Cause.renamed f)) = r'.map (Option.map (Cause.renamed f)) →
        Findings.renamed f (do let cause ← r; return onChange place none cause) =
          Findings.renamed f (do let cause ← r'; return onChange place none cause) := by
    intro r r' hr
    rw [issues, issues, hr]
  unfold referredColumn
  cases place.change.element with
  | renameColumn => exact same (renamedCause?_congr h hd)
  | modifyDataType | resizeDataType => exact same (modifiedCause?_congr h hd)
  | _ => rfl

end Check

end Stores

/-! ## All checks of one change -/

/-- A check of one change finds the same at places that are alike, with stores that agree on the
tables of the change. -/
theorem ChangeCheck.run_congr {check : ChangeCheck} (hcheck : check.scope = .single)
    {tables : List String} {f : String → String} {store store' : Store}
    (hs : store.Alike tables f store') {p p' : ChangePlace} (hp : p.Alike p')
    (hd : List.Disjoint p.change.tables tables) (policy : Policy) (memory memory' : Memory) :
    (check.run policy store p memory).1.renamed f =
      (check.run policy store' p' memory').1.renamed f := by
  rw [hp.run hcheck policy store' memory memory']
  cases check with
  | rowBudget => exact congrArg (Findings.renamed f) (Check.rowBudget_congr hs p hd _)
  | keyBudget => exact congrArg (Findings.renamed f) (Check.keyBudget_congr hs p hd _)
  | nullableUnique => exact congrArg (Findings.renamed f) (Check.nullableUnique_congr hs p hd)
  | referredColumn => exact Check.referredColumn_congr hs p hd
  | duplicatedIndex | insertedElsewhere => cases hcheck
  | _ => rfl

end MigrationAudit
