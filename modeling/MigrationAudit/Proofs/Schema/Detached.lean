import MigrationAudit.Proofs.Schema.Absence

/-!
# Constraints that are added and dropped

Dropping constraints from the columns of a table forgets what has been put on them and passes the
same test (`Schema.Columnar.detach_attach`), and it does nothing where nothing on the table passes
(`Schema.Columnar.detach_eq_self_iff`).  So a constraint that is added under a name that is free on
its table and then dropped leaves the schema as it was, whatever columns it was added to
(`Schema.dropped_after_added`).
-/

namespace MigrationAudit

/-! ## Adding and dropping -/

/-- The kind of constraint that changes of this element add, and the element that drops it. -/
def Element.adds? : Element → Option (ConstraintKind × Element)
  | .createIndex => some (.index, .dropIndex)
  | .addUniqueConstraint => some (.index, .dropUniqueConstraint)
  | .addForeignKeyConstraint => some (.foreignKey, .dropForeignKeyConstraint)
  | .addPrimaryKey => some (.primaryKey, .dropPrimaryKey)
  | _ => none

theorem Element.adds?_cases {e f : Element} {kind : ConstraintKind}
    (h : e.adds? = some (kind, f)) :
    (kind ≠ .primaryKey ∧
        (f = .dropIndex ∨ f = .dropUniqueConstraint ∨ f = .dropForeignKeyConstraint)) ∨
      kind = .primaryKey ∧ f = .dropPrimaryKey := by
  cases e <;> cases h <;> decide

namespace Change

/-- The name of the index or of the constraint that the change adds or drops. -/
def constraintName? (c : Change) : Option String :=
  match c.element with
  | .createIndex | .dropIndex => c.text? .indexName
  | _ => c.text? .constraintName

variable {c d : Change} {t n : String} {kind : ConstraintKind} {e : Element}

theorem edits_of_adds (adds : c.element.adds? = some (kind, e)) (table : c.table? = some t)
    (name : c.constraintName? = some n) :
    ∃ columns : List String,
      c.script.edits = columns.map fun column => .attach t column (some n) kind := by
  unfold table? at table
  unfold constraintName? at name
  cases he : c.element <;> rw [he] at adds <;> cases adds
  all_goals
    simp only [he, Element.tableAttribute?, Option.bind_some] at table name
    rw [script_eq_constraintScript (by rw [he]; rfl)]
  case createIndex =>
    refine ⟨NestedColumn.leadingNames c.nested, ?_⟩
    rw [constraintScript_createIndex he table, Script.overColumns_edits, name,
      NestedColumn.leadingNames, List.map_map, List.map_eq_flatMap]
    rfl
  -- the other three list the columns in an attribute
  all_goals
    unfold constraintScript
    simp only [he, require, table, name]
    exact ⟨_, rfl⟩

theorem script_dropsNamed (hd : d.element = .dropIndex ∨ d.element = .dropUniqueConstraint ∨
    d.element = .dropForeignKeyConstraint) (table : d.table? = some t)
    (name : d.constraintName? = some n) : d.script = ⟨[.detachNamed t n], none⟩ := by
  unfold table? at table
  unfold constraintName? at name
  rcases hd with he | he | he
  all_goals
    simp only [he, Element.tableAttribute?, Option.bind_some] at table name
    rw [script_eq_constraintScript (by rw [he]; rfl), constraintScript]
    simp only [he, detachByName, require, table, name]
    rfl

theorem script_dropPrimaryKey (he : d.element = .dropPrimaryKey) (table : d.table? = some t) :
    d.script = ⟨[.detachPrimaryKeys t d.constraintName?], none⟩ := by
  unfold table? at table
  unfold constraintName?
  simp only [he, Element.tableAttribute?, Option.bind_some] at table ⊢
  rw [script_eq_constraintScript (by rw [he]; rfl), constraintScript]
  simp only [he, require, table]
  rfl

end Change

/-! ## Columns -/

/-- The constraints on the columns of a table. -/
def Store.constraintsIn (s : Store) (table : String) : List Constraint :=
  (s.columns (.table table)).flatMap (·.constraints)

namespace Schema

variable {s : Schema} (naming : Naming) {t : String} {p : Constraint → Bool}

/-- The column without the constraints that pass a test. -/
def cleared (p : Constraint → Bool) (c : Column) : Column :=
  { c with constraints := c.constraints.filter fun k => !p k }

theorem Columnar.detach_eq (h : s.Columnar) (t : String) (p : Constraint → Bool) :
    s.detach t p = ofColumns (s.columns.map (Column.updated (.table t) (cleared p))) s.drawn := by
  have store : s.store.update (.table t) (cleared p) =
      .ofColumns (s.columns.map (Column.updated (.table t) (cleared p))) := by
    rw [← Store.update_ofColumns, ← h]
  exact congrArg (Schema.mk · s.drawn) store

/-- What is put on a column and dropped at once need not have been put there. -/
theorem Columnar.detach_attach (h : s.Columnar) {column n : String} {kind : ConstraintKind}
    (hp : p ⟨kind, .declared n⟩ = true) :
    (s.applyEdit naming (.attach t column (some n) kind)).detach t p = s.detach t p := by
  rw [(h.applyEdit naming _).detach_eq, h.detach_eq, h.columns_applyEdit,
    drawn_applyEdit naming h]
  simp only [Edit.onColumns, Edit.draws, Nat.add_zero, List.map_map]
  congr 1
  refine List.map_congr_left fun c _ => ?_
  simp only [Function.comp_apply, Column.updated, Edit.query]
  split
  · next hm =>
    have ht : c.table = t := (identity_matches_column.mp hm).1
    have before : c.identity.matches (.table t) = true := identity_matches_table.mpr ht
    have after : (Edit.revise naming s.drawn (.attach t column (some n) kind) c).identity.matches
        (.table t) = true := identity_matches_table.mpr ht
    rw [if_pos before, if_pos after]
    simp [cleared, Edit.revise, nameConstraint, hp]
  · rfl

theorem Columnar.detach_attaches {n : String} {kind : ConstraintKind}
    (hp : p ⟨kind, .declared n⟩ = true) : ∀ (columns : List String) {s : Schema}, s.Columnar →
      (s.applyEdits naming (columns.map fun column => .attach t column (some n) kind)).detach t p =
        s.detach t p
  | [], _, _ => rfl
  | column :: columns, s, h => by
    have first := h.applyEdit naming (.attach t column (some n) kind)
    have rest := Columnar.detach_attaches hp columns first
    exact rest.trans (h.detach_attach naming hp)

theorem Columnar.detach_eq_self_iff (h : s.Columnar) :
    s.detach t p = s ↔ ∀ k ∈ s.store.constraintsIn t, p k = false := by
  have same : s.detach t p = s ↔
      s.columns.map (Column.updated (.table t) (cleared p)) = s.columns.map id := by
    rw [h.detach_eq, List.map_id]
    refine ⟨fun hs => ?_, fun hs => ?_⟩
    · have columns := congrArg columns hs
      rwa [columns_ofColumns] at columns
    · rw [hs, ← h.eq_ofColumns]
  have one : ∀ c : Column, Column.updated (.table t) (cleared p) c = c ↔
      (c.identity.matches (.table t) = true → ∀ k ∈ c.constraints, p k = false) := by
    intro c
    unfold Column.updated
    split
    · next hm =>
      obtain ⟨table, name, nullable, dataType, oldType, length, constraints⟩ := c
      simp [cleared, hm]
    · next hm => simp [hm]
  rw [same, List.map_inj_left, Store.constraintsIn, h.columns_eq]
  simp only [id, one, List.mem_flatMap, List.mem_filter]
  exact ⟨fun all k ⟨c, ⟨hc, hm⟩, hk⟩ => all c hc hm k hk,
    fun all c hc hm k hk => all k ⟨c, ⟨hc, hm⟩, hk⟩⟩

/-! ## Changes -/

/-- A constraint that is added to columns of a table, under a name that none on the table bears, and
dropped by this name leaves the schema as it was.  So does a primary key that is added where there
is none and dropped, exactly if the drop does not give the name of another constraint on the table;
in particular if it gives no name or that of the key. -/
theorem dropped_after_added {naming₀ : Naming} (hs : s.Reachable naming₀) (naming naming' : Naming)
    {c d : Change} {n : String} {kind : ConstraintKind}
    (adds : c.element.adds? = some (kind, d.element)) (table : c.table? = some t)
    (name : c.constraintName? = some n) (table' : d.table? = some t)
    (free : ∀ k ∈ s.store.constraintsIn t, k.name.text ≠ n) :
    (kind ≠ .primaryKey → d.constraintName? = some n →
        (s.replay naming c).1.replay naming' d = (s, none)) ∧
      (kind = .primaryKey → (∀ k ∈ s.store.constraintsIn t, k.kind ≠ .primaryKey) →
        ((s.replay naming c).1.replay naming' d = (s, none) ↔
          ∀ k ∈ s.store.constraintsIn t, d.constraintName? ≠ some k.name.text)) := by
  obtain ⟨columns, attaches⟩ := Change.edits_of_adds adds table name
  have swept : ∀ p : Constraint → Bool, p ⟨kind, .declared n⟩ = true →
      (s.replay naming c).1.detach t p = s.detach t p := by
    intro p hp
    rw [replay_schema, attaches]
    exact Columnar.detach_attaches naming hp columns hs.columnar
  constructor
  · intro hkind name'
    obtain ⟨-, drops⟩ | ⟨hkey, -⟩ := Element.adds?_cases adds
    case inr => exact absurd hkey hkind
    have whole : (s.replay naming c).1.detach t (fun k => k.name.text == n) = s := by
      rw [swept _ (by simp [ConstraintName.text]), hs.columnar.detach_eq_self_iff]
      exact fun k hk => beq_eq_false_iff_ne.mpr (free k hk)
    rw [replay, Change.script_dropsNamed drops table' name']
    exact congrArg (·, none) whole
  · rintro rfl nokey
    obtain ⟨hkind, -⟩ | ⟨-, drops⟩ := Element.adds?_cases adds
    case inl => exact absurd rfl hkind
    have whole : (s.replay naming c).1.detach t
          (fun k => k.kind == .primaryKey || some k.name.text == d.constraintName?) = s ↔
        ∀ k ∈ s.store.constraintsIn t, d.constraintName? ≠ some k.name.text := by
      rw [swept _ (by simp), hs.columnar.detach_eq_self_iff]
      refine forall₂_congr fun k hk => ?_
      rw [Bool.or_eq_false_iff, beq_eq_false_iff_ne, beq_eq_false_iff_ne, ne_comm (a := some _)]
      exact and_iff_right (nokey k hk)
    rw [replay, Change.script_dropPrimaryKey drops table', ← whole]
    exact ⟨congrArg Prod.fst, congrArg (·, none)⟩

/-- An index on a column, on an unknown one and on the first again, and a primary key on them,
beside an index of another name. -/
theorem dropped_after_added_twice :
    let s := empty.replayAll (fun _ => "")
      [.ofTexts .createTable [(.tableName, "t")] [.ofName "a", .ofName "b"],
        .ofIndex "other" "t" ["a", "b"]]
    let index := Change.ofIndex "i" "t" ["a", "ghost", "a"]
    let key := Change.ofTexts .addPrimaryKey
      [(.tableName, "t"), (.columnNames, "a, ghost, a"), (.constraintName, "pk")] []
    s.Reachable (fun _ => "") ∧ s.store.constraintsIn "t" ≠ [] ∧
      (∀ k ∈ s.store.constraintsIn "t",
        k.kind ≠ .primaryKey ∧ k.name.text ≠ "i" ∧ k.name.text ≠ "pk") ∧
      (s.replay (fun _ => "") index).1 ≠ s ∧
      (s.replay (fun _ => "") index).1.replay (fun _ => "")
        (.ofTexts .dropIndex [(.tableName, "t"), (.indexName, "i")] []) = (s, none) ∧
      (s.replay (fun _ => "") key).1 ≠ s ∧
      (s.replay (fun _ => "") key).1.replay (fun _ => "")
        (.ofTexts .dropPrimaryKey [(.tableName, "t")] []) = (s, none) := by
  intro s index key
  have hs : s.Reachable (fun _ => "") := ⟨_, rfl⟩
  have there : s.store.constraintsIn "t" =
      [⟨.index, .declared "other"⟩, ⟨.index, .declared "other"⟩] := by decide +kernel
  have free : ∀ k ∈ s.store.constraintsIn "t",
      k.kind ≠ .primaryKey ∧ k.name.text ≠ "i" ∧ k.name.text ≠ "pk" := by
    rw [there]
    decide
  have nameless : ∀ k ∈ s.store.constraintsIn "t",
      (Change.ofTexts .dropPrimaryKey [(.tableName, "t")] []).constraintName? ≠
        some k.name.text := by
    rw [there]
    decide
  refine ⟨hs, by simp [there], free, by decide +kernel, ?_, by decide +kernel, ?_⟩
  · exact (dropped_after_added hs (fun _ => "") (fun _ => "") rfl rfl rfl rfl
      fun k hk => (free k hk).2.1).1 (by decide) rfl
  · exact ((dropped_after_added hs (fun _ => "") (fun _ => "") rfl rfl rfl rfl
      fun k hk => (free k hk).2.2).2 rfl fun k hk => (free k hk).1).mpr nameless

end Schema

end MigrationAudit
