import Mathlib.Data.Finset.Card
import Mathlib.Data.Finset.Image
import MigrationAudit.Proofs.Changelog.Plain
import MigrationAudit.Proofs.Schema.Columns
import MigrationAudit.Proofs.Schema.Scripts

/-!
# The known identities

What a change does to the identities in a store depends on these identities and the change alone:
as a list of pairs of table and column they change by `Edit.onPairs`
(`Schema.Columnar.pairs_applyEdits`), as a set by `Change.knownAfter`
(`Change.toFinset_onPairs_script`).  Only tables that are created and columns that are added bring
new ones.
-/

namespace MigrationAudit

def Column.pair (c : Column) : String × String := (c.table, c.name)

def Identity.ofPair (p : String × String) : Identity := .column p.1 p.2

theorem Identity.ofPair_injective : Function.Injective Identity.ofPair := by
  rintro ⟨t, n⟩ ⟨t', n'⟩ h
  simpa [Identity.ofPair] using h

theorem ofPair_pair (c : Column) : Identity.ofPair c.pair = c.identity := rfl

theorem identity_eq_iff {c d : Column} : d.identity = c.identity ↔ d.pair = c.pair := by
  rw [← ofPair_pair, ← ofPair_pair, Identity.ofPair_injective.eq_iff]

/-- The pair under a new table name, if its table is the renamed one. -/
def tableRenamed (old new : String) (p : String × String) : String × String :=
  if p.1 = old then (new, p.2) else p

/-- The pair under a new column name, if it is the renamed one. -/
def columnRenamed (table old new : String) (p : String × String) : String × String :=
  if p = (table, old) then (table, new) else p

theorem toFinset_map_eq_image (f : String × String → String × String)
    (ps : List (String × String)) : (ps.map f).toFinset = ps.toFinset.image f := by
  ext p
  simp

/-! ## Pairs of updated columns -/

theorem pair_renamedTable (old new : String) (c : Column) :
    (Column.updated (.table old) (fun c => { c with table := new }) c).pair =
      tableRenamed old new c.pair := by
  unfold Column.updated
  split
  · next h => simp [tableRenamed, Column.pair, identity_matches_table.mp h]
  · next h =>
    rw [identity_matches_table] at h
    simp [tableRenamed, Column.pair, h]

theorem pair_renamedColumn (t old new : String) (c : Column) :
    (Column.updated (.column t old) (fun c => { c with name := new }) c).pair =
      columnRenamed t old new c.pair := by
  unfold Column.updated
  split
  · next h =>
    obtain ⟨ht, hn⟩ := identity_matches_column.mp h
    simp [columnRenamed, Column.pair, ht, hn]
  · next h =>
    rw [identity_matches_column] at h
    simp [columnRenamed, Column.pair, h]

theorem pair_updated_of_keeps {q : Query} {f : Column → Column} (h : ∀ c, (f c).pair = c.pair)
    (c : Column) : (Column.updated q f c).pair = c.pair := by
  unfold Column.updated
  split
  · exact h c
  · rfl

theorem map_pair_map {f : Column → Column} {g : String × String → String × String}
    (h : ∀ c, (f c).pair = g c.pair) (cs : List Column) :
    (cs.map f).map Column.pair = (cs.map Column.pair).map g := by
  rw [List.map_map, List.map_map]
  exact List.map_congr_left fun c _ => h c

/-! ## Edits -/

namespace Edit

/-- The pairs of table and column after an edit, in the order in which they are stored. -/
def onPairs : Edit → List (String × String) → List (String × String)
  | .declare t n _ _, ps => if (t, n) ∈ ps then ps else ps ++ [(t, n)]
  | .renameTable old new, ps => ps.map (tableRenamed old new)
  | .renameColumn t old new, ps => ps.map (columnRenamed t old new)
  | .dropTable t, ps => ps.filter (·.1 ≠ t)
  | .dropColumn t n, ps => ps.filter (· ≠ (t, n))
  | _, ps => ps

def allOnPairs (es : List Edit) (ps : List (String × String)) : List (String × String) :=
  es.foldl (fun ps e => e.onPairs ps) ps

theorem allOnPairs_append (es fs : List Edit) (ps : List (String × String)) :
    allOnPairs (es ++ fs) ps = allOnPairs fs (allOnPairs es ps) := by
  simp [allOnPairs]

theorem map_pair_placedIn (c : Column) : ∀ cs : List Column,
    (c.placedIn cs).map Column.pair =
      if c.pair ∈ cs.map Column.pair then cs.map Column.pair else cs.map Column.pair ++ [c.pair]
  | [] => by simp [Column.placedIn]
  | d :: ds => by
    have ih := map_pair_placedIn c ds
    by_cases h : d.pair = c.pair
    · simp [Column.placedIn, identity_eq_iff, h]
    · simp only [Column.placedIn, identity_eq_iff, h, if_false, List.map_cons, ih, List.mem_cons, Ne.symm h,
        false_or]
      split <;> simp

theorem map_pair_onColumns (naming : Naming) (drawn : Nat) (e : Edit) (cs : List Column) :
    (e.onColumns naming drawn cs).map Column.pair = e.onPairs (cs.map Column.pair) := by
  have keep : ∀ (q : Query) (f : Column → Column), (∀ c, (f c).pair = c.pair) →
      (cs.map (Column.updated q f)).map Column.pair = cs.map Column.pair := by
    intro q f h
    simpa using map_pair_map (g := id) (pair_updated_of_keeps h) cs
  cases e with
  | declare t n nullable declaration => exact map_pair_placedIn _ cs
  | renameTable old new => exact map_pair_map (pair_renamedTable old new) cs
  | renameColumn t old new => exact map_pair_map (pair_renamedColumn t old new) cs
  | dropTable t =>
    simp only [onColumns, onPairs, List.filter_map]
    congr 1
    refine List.filter_congr fun c _ => Bool.eq_iff_iff.mpr ?_
    simp [Column.pair, ← identity_matches_table]
  | dropColumn t n =>
    simp only [onColumns, onPairs, List.filter_map]
    congr 1
    refine List.filter_congr fun c _ => Bool.eq_iff_iff.mpr ?_
    simp [Column.pair, ← identity_matches_column]
  | _ => exact keep _ _ fun c => rfl

/-- Edits that touch constraints alone keep every pair. -/
theorem onPairs_of_constrains {e : Edit} (h : e.constrains = true) (ps : List (String × String)) :
    e.onPairs ps = ps := by
  cases e <;> first | rfl | simp [constrains] at h

theorem allOnPairs_of_constrains : ∀ {es : List Edit}, (∀ e ∈ es, e.constrains = true) →
    ∀ ps, allOnPairs es ps = ps
  | [], _, _ => rfl
  | e :: es, h, ps => by
    have he := onPairs_of_constrains (h e List.mem_cons_self) ps
    have ih := allOnPairs_of_constrains (fun f hf => h f (List.mem_cons_of_mem e hf)) ps
    simpa [allOnPairs, he] using ih

theorem allOnPairs_script (c : Change) (ps : List (String × String)) :
    allOnPairs c.script.edits ps = allOnPairs c.columnScript.edits ps := by
  rw [Change.script, Script.andThen_edits, allOnPairs_append]
  split
  · exact allOnPairs_of_constrains c.constrains_of_mem_constraintScript _
  · rfl

/-- The edits that can bring a new identity. -/
def declares : Edit → Bool
  | .declare .. => true
  | _ => false

theorem length_onPairs_le {e : Edit} (h : e.declares = false) (ps : List (String × String)) :
    (e.onPairs ps).length ≤ ps.length := by
  cases e with
  | declare t n nullable declaration => simp [declares] at h
  | renameTable old new => exact (List.length_map _).le
  | renameColumn t old new => exact (List.length_map _).le
  | dropTable t => exact List.length_filter_le _ _
  | dropColumn t n => exact List.length_filter_le _ _
  | _ => exact le_rfl

theorem card_onPairs_le {e : Edit} (h : e.declares = false) (ps : List (String × String)) :
    (e.onPairs ps).toFinset.card ≤ ps.toFinset.card := by
  cases e with
  | declare t n nullable declaration => simp [declares] at h
  | renameTable old new =>
    rw [onPairs, toFinset_map_eq_image]
    exact Finset.card_image_le
  | renameColumn t old new =>
    rw [onPairs, toFinset_map_eq_image]
    exact Finset.card_image_le
  | dropTable t =>
    rw [onPairs, List.toFinset_filter]
    exact Finset.card_filter_le _ _
  | dropColumn t n =>
    rw [onPairs, List.toFinset_filter]
    exact Finset.card_filter_le _ _
  | _ => exact le_rfl

theorem allOnPairs_le : ∀ {es : List Edit}, (∀ e ∈ es, e.declares = false) →
    ∀ ps, (allOnPairs es ps).length ≤ ps.length ∧
      (allOnPairs es ps).toFinset.card ≤ ps.toFinset.card
  | [], _, _ => ⟨le_rfl, le_rfl⟩
  | e :: es, h, ps => by
    have he := h e List.mem_cons_self
    have ih := allOnPairs_le (fun f hf => h f (List.mem_cons_of_mem e hf)) (e.onPairs ps)
    exact ⟨ih.1.trans (length_onPairs_le he ps), ih.2.trans (card_onPairs_le he ps)⟩

theorem toFinset_declares (t : String) : ∀ (ns : List (String × NestedColumn))
    (ps : List (String × String)),
    (allOnPairs (ns.map fun n => .declare t n.1 n.2.nullable (n.2.text? .type)) ps).toFinset =
      ps.toFinset ∪ ((ns.map (·.1)).map (t, ·)).toFinset
  | [], ps => by simp [allOnPairs]
  | n :: ns, ps => by
    have ih := toFinset_declares t ns (if (t, n.1) ∈ ps then ps else ps ++ [(t, n.1)])
    simp only [List.map_cons, allOnPairs, List.foldl_cons, onPairs] at ih ⊢
    rw [ih]
    split
    · next h =>
      rw [List.toFinset_cons, Finset.union_insert, Finset.insert_eq_of_mem]
      exact Finset.mem_union_left _ (List.mem_toFinset.mpr h)
    · simp

theorem toFinset_drops (t : String) : ∀ (names : List String) (ps : List (String × String)),
    (allOnPairs (names.map (.dropColumn t)) ps).toFinset =
      ps.toFinset \ (names.map (t, ·)).toFinset
  | [], ps => by simp [allOnPairs]
  | n :: names, ps => by
    have ih := toFinset_drops t names (ps.filter (· ≠ (t, n)))
    simp only [List.map_cons, allOnPairs, List.foldl_cons, onPairs] at ih ⊢
    rw [ih]
    ext p
    simp only [Finset.mem_sdiff, List.mem_toFinset, List.mem_filter, List.mem_cons, not_or,
      decide_eq_true_eq]
    tauto

end Edit

/-! ## Changes -/

namespace Change

open Edit NestedColumn

/-- The identities known after a change, given those known before it. -/
def knownAfter (c : Change) (known : Finset (String × String)) : Finset (String × String) :=
  match c.element with
  | .createTable | .addColumn =>
    match c.text? .tableName with
    | some t => known ∪ ((leadingNames c.nested).map (t, ·)).toFinset
    | none => known
  | .renameTable =>
    match c.text? .oldTableName, c.text? .newTableName with
    | some old, some new => known.image (tableRenamed old new)
    | _, _ => known
  | .renameColumn =>
    match c.text? .tableName, c.text? .oldColumnName, c.text? .newColumnName with
    | some t, some old, some new => known.image (columnRenamed t old new)
    | _, _, _ => known
  | .dropTable =>
    match c.text? .tableName with
    | some t => known.filter (·.1 ≠ t)
    | none => known
  | .dropColumn =>
    match c.text? .tableName with
    | some t =>
      known \ (((c.text? .columnName).toList ++ leadingNames c.nested).map (t, ·)).toFinset
    | none => known
  | _ => known

theorem toFinset_onPairs_declareColumns (c : Change) (ps : List (String × String)) :
    (allOnPairs (Script.ofResult c.declareColumns).edits ps).toFinset =
      match c.text? .tableName with
      | some t => ps.toFinset ∪ ((leadingNames c.nested).map (t, ·)).toFinset
      | none => ps.toFinset := by
  rw [declareColumns, edits_require]
  cases c.text? .tableName with
  | none => rfl
  | some t =>
    simp only [Option.elim, Script.ofResult, pure, Except.pure, Script.overColumns_edits,
      ← List.map_eq_flatMap]
    exact toFinset_declares t _ ps

theorem toFinset_onPairs_script (c : Change) (ps : List (String × String)) :
    (allOnPairs c.script.edits ps).toFinset = c.knownAfter ps.toFinset := by
  rw [allOnPairs_script]
  unfold columnScript knownAfter
  cases c.element with
  | createTable | addColumn => exact toFinset_onPairs_declareColumns c ps
  | renameTable =>
    simp only [edits_require]
    cases c.text? .oldTableName <;> cases c.text? .newTableName <;> try rfl
    exact toFinset_map_eq_image _ ps
  | renameColumn =>
    simp only [edits_require]
    cases c.text? .tableName <;> cases c.text? .oldColumnName <;>
      cases c.text? .newColumnName <;> try rfl
    exact toFinset_map_eq_image _ ps
  | dropTable =>
    simp only [edits_require]
    cases c.text? .tableName with
    | none => rfl
    | some t =>
      refine (List.toFinset_filter ps _).trans (Finset.filter_congr fun p _ => ?_)
      exact decide_eq_true_iff
  | dropColumn =>
    simp only [edits_require]
    cases c.text? .tableName with
    | none => rfl
    | some t =>
      have h := dropColumn_edits t (c.text? .columnName) c.nested
      exact (congrArg (fun es => (allOnPairs es ps).toFinset) h).trans (toFinset_drops t _ ps)
  | addNotNullConstraint | dropNotNullConstraint | modifyDataType | resizeDataType =>
    simp only [edits_require]
    cases c.text? .tableName <;> cases c.text? .columnName <;> rfl
  | _ => rfl

theorem declares_of_mem_columnScript {c : Change} (hc : c.element ≠ .createTable)
    (ha : c.element ≠ .addColumn) : ∀ e ∈ c.columnScript.edits, e.declares = false := by
  intro e he
  cases c.columnEdit_of_mem_columnScript e he with
  | declare element => exact (element.elim hc ha).elim
  | _ => rfl

end Change

/-! ## Runs of changes -/

namespace Schema

open Edit

def pairs (s : Schema) : List (String × String) := s.columns.map Column.pair

variable {s : Schema}

theorem Columnar.keys_eq (h : s.Columnar) : s.store.keys = s.pairs.map Identity.ofPair := by
  rw [h, Store.keys_ofColumns, pairs, List.map_map]
  rfl

theorem Columnar.toFinset_keys (h : s.Columnar) :
    s.store.keys.toFinset = s.pairs.toFinset.image Identity.ofPair := by
  ext id
  simp [h.keys_eq]

theorem Columnar.card_keys (h : s.Columnar) :
    s.store.keys.toFinset.card = s.pairs.toFinset.card := by
  rw [h.toFinset_keys, Finset.card_image_of_injective _ Identity.ofPair_injective]

theorem Columnar.size_eq (h : s.Columnar) : s.store.size = s.pairs.length := by
  rw [h, Store.size_ofColumns, pairs, List.length_map]

variable (naming : Naming)

theorem Columnar.pairs_applyEdits : ∀ (es : List Edit) {s : Schema}, s.Columnar →
    (s.applyEdits naming es).pairs = allOnPairs es s.pairs
  | [], _, _ => rfl
  | e :: es, s, h => by
    have he : (s.applyEdit naming e).pairs = e.onPairs s.pairs := by
      rw [pairs, h.columns_applyEdit, map_pair_onColumns, pairs]
    have ih := Columnar.pairs_applyEdits es (h.applyEdit naming e)
    rw [he] at ih
    exact ih

theorem Columnar.pairs_replay (h : s.Columnar) (c : Change) :
    (s.replay naming c).1.pairs = allOnPairs c.script.edits s.pairs :=
  Columnar.pairs_applyEdits naming c.script.edits h

theorem Columnar.mem_pairs_replay (h : s.Columnar) (c : Change) (p : String × String) :
    p ∈ (s.replay naming c).1.pairs ↔ p ∈ c.knownAfter s.pairs.toFinset := by
  rw [h.pairs_replay, ← Change.toFinset_onPairs_script, List.mem_toFinset]

theorem Columnar.toFinset_pairs_replayAll : ∀ (changes : List Change) {s : Schema}, s.Columnar →
    (s.replayAll naming changes).pairs.toFinset =
      changes.foldl (fun known (c : Change) => c.knownAfter known) s.pairs.toFinset
  | [], _, _ => rfl
  | c :: changes, s, h => by
    have ih := Columnar.toFinset_pairs_replayAll changes (h.replay naming c)
    rw [h.pairs_replay, Change.toFinset_onPairs_script] at ih
    exact ih

theorem Columnar.replay_le {c : Change} (h : s.Columnar) (hc : c.element ≠ .createTable)
    (ha : c.element ≠ .addColumn) :
    (s.replay naming c).1.store.keys.toFinset.card ≤ s.store.keys.toFinset.card ∧
      (s.replay naming c).1.store.size ≤ s.store.size := by
  have h' := h.replay naming c
  have hle := allOnPairs_le (Change.declares_of_mem_columnScript hc ha) s.pairs
  rw [h'.card_keys, h'.size_eq, h.card_keys, h.size_eq, h.pairs_replay, allOnPairs_script]
  exact ⟨hle.2, hle.1⟩

/-- The identities stored after a run are those that its changes make known one after the other.
Only tables that are created and columns that are added make them more. -/
theorem keys_replayAll_eq_knownAfter (changes : List Change) :
    (empty.replayAll naming changes).store.keys.toFinset =
        (changes.foldl (fun known (c : Change) => c.knownAfter known) ∅).image Identity.ofPair ∧
      ∀ c : Change, c.element ≠ .createTable → c.element ≠ .addColumn →
        (empty.replayAll naming (changes ++ [c])).store.keys.toFinset.card ≤
            (empty.replayAll naming changes).store.keys.toFinset.card ∧
          (empty.replayAll naming (changes ++ [c])).store.size ≤
            (empty.replayAll naming changes).store.size := by
  have h := columnar_empty.replayAll naming changes
  refine ⟨?_, fun c hc ha => ?_⟩
  · rw [h.toFinset_keys, columnar_empty.toFinset_pairs_replayAll naming changes]
    rfl
  · rw [replayAll_append]
    exact h.replay_le naming hc ha

/-- Renaming a table onto another one that shares a column makes the identities fewer. -/
theorem keys_replayAll_renamed_onto_known :
    (Change.ofTexts .renameTable [(.oldTableName, "t"), (.newTableName, "u")] []).element ≠
        .createTable ∧
      (Change.ofTexts .renameTable [(.oldTableName, "t"), (.newTableName, "u")] []).element ≠
        .addColumn ∧
      (empty.replayAll (fun _ => "") ([.ofTexts .createTable [(.tableName, "t")] [.ofName "a"],
          .ofTexts .createTable [(.tableName, "u")] [.ofName "a"]] ++
          [.ofTexts .renameTable [(.oldTableName, "t"), (.newTableName, "u")] []])).store.size ≤
        (empty.replayAll (fun _ => "") [.ofTexts .createTable [(.tableName, "t")] [.ofName "a"],
          .ofTexts .createTable [(.tableName, "u")] [.ofName "a"]]).store.size :=
  ⟨by decide, by decide,
    ((keys_replayAll_eq_knownAfter _ _).2 _ (by decide) (by decide)).2⟩

end Schema

end MigrationAudit
