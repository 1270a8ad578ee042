import MigrationAudit.Proofs.Schema.Absence
import MigrationAudit.Proofs.Schema.Origins

/-!
# Changes that are undone

A rename to what is not known is undone by the rename back, for it moves every column in its place
(`map_updated_back`).  New columns are undone by dropping them: apart from what is dropped, they
leave the columns as they were (`Edit.apart_onColumns`), and nothing of what is dropped was there
before (`Schema.Columnar.columns_dropped`).  So what a change brings and its counterpart takes away
leaves no trace in the store (`Schema.store_undone`).
-/

namespace MigrationAudit

namespace Change

/-- The names of the columns that a change drops from its table. -/
def droppedColumns (c : Change) : List String :=
  (c.text? .columnName).toList ++ NestedColumn.leadingNames c.nested

/-- The second change takes back what the first one does to a store that does not know the new names
or columns. -/
inductive UndoneBy (s : Store) (c d : Change) : Prop
  | renameTable {a b : String} (element : c.element = .renameTable)
    (old : c.text? .oldTableName = some a) (new : c.text? .newTableName = some b)
    (element' : d.element = .renameTable) (old' : d.text? .oldTableName = some b)
    (new' : d.text? .newTableName = some a) (fresh : ∀ n, ¬ s.Knows b n)
  | renameColumn {t x y : String} (element : c.element = .renameColumn)
    (table : c.text? .tableName = some t) (old : c.text? .oldColumnName = some x)
    (new : c.text? .newColumnName = some y) (element' : d.element = .renameColumn)
    (table' : d.text? .tableName = some t) (old' : d.text? .oldColumnName = some y)
    (new' : d.text? .newColumnName = some x) (fresh : ¬ s.Knows t y)
  | createTable {t : String} (element : c.element = .createTable)
    (table : c.text? .tableName = some t) (element' : d.element = .dropTable)
    (table' : d.text? .tableName = some t) (fresh : ∀ n, ¬ s.Knows t n)
  | addColumn {t : String} (element : c.element = .addColumn)
    (table : c.text? .tableName = some t) (element' : d.element = .dropColumn)
    (table' : d.text? .tableName = some t)
    (same : ∀ n, n ∈ d.droppedColumns ↔ n ∈ NestedColumn.leadingNames c.nested)
    (fresh : ∀ n ∈ NestedColumn.leadingNames c.nested, ¬ s.Knows t n)

end Change

/-! ## Moving back -/

/-- Columns that are moved to where there were none are moved back in their places. -/
theorem map_updated_back {q q' : Query} {f g : Column → Column} {cs : List Column}
    (fresh : ∀ c ∈ cs, ¬ c.identity.matches q' = true)
    (moved : ∀ c : Column, c.identity.matches q = true →
      (f c).identity.matches q' = true ∧ g (f c) = c) :
    (cs.map (Column.updated q f)).map (Column.updated q' g) = cs := by
  rw [List.map_map]
  refine (List.map_congr_left fun c hc => ?_).trans (List.map_id cs)
  by_cases hm : c.identity.matches q = true
  · simp [Column.updated, hm, (moved c hm).1, (moved c hm).2]
  · simp [Column.updated, hm, fresh c hc]

/-! ## Columns apart from some -/

/-- The columns that no query finds. -/
def apart (qs : List Query) (cs : List Column) : List Column :=
  cs.filter fun c => qs.all fun q => !c.identity.matches q

section Apart

variable {qs : List Query} {cs : List Column}

theorem apart_cons (q : Query) (qs : List Query) (cs : List Column) :
    apart (q :: qs) cs = apart qs (cs.filter fun c => !c.identity.matches q) := by
  simp only [apart, List.filter_filter, List.all_cons, Bool.and_comm]

theorem apart_eq_self (h : ∀ q ∈ qs, ∀ c ∈ cs, ¬ c.identity.matches q = true) :
    apart qs cs = cs := by
  rw [apart, List.filter_eq_self]
  intro c hc
  simpa using fun q hq => h q hq c hc

theorem filter_map_updated {q : Query} {f : Column → Column} {p : Column → Bool}
    (hp : ∀ c : Column, c.identity.matches q = true → p c = false ∧ p (f c) = false)
    (cs : List Column) : (cs.map (Column.updated q f)).filter p = cs.filter p := by
  induction cs with
  | nil => rfl
  | cons c cs ih =>
    rw [List.map_cons, List.filter_cons, List.filter_cons, ih]
    by_cases hm : c.identity.matches q = true
    · simp [Column.updated, hm, hp c hm]
    · simp [Column.updated, hm]

namespace Edit

def drops : Edit → Bool
  | .dropTable _ | .dropColumn .. => true
  | _ => false

/-- Everything that the edit is about is found by one of the queries. -/
def Within (e : Edit) (qs : List Query) : Prop :=
  ∃ q ∈ qs, ∀ id : Identity, id.matches e.query = true → id.matches q = true

variable {e : Edit}

theorem Within.unseen (he : e.Within qs) {c : Column} (hc : c.identity.matches e.query = true) :
    (qs.all fun q => !c.identity.matches q) = false := by
  obtain ⟨q, hq, hle⟩ := he
  rw [List.all_eq_false]
  exact ⟨q, hq, by simp [hle _ hc]⟩

/-- An edit that renames nothing is not seen apart from what it is about. -/
theorem apart_onColumns (naming : Naming) (drawn : Nat) (he : e.renames = false)
    (hq : e.Within qs) : apart qs (e.onColumns naming drawn cs) = apart qs cs := by
  have kept : ∀ f : Column → Column, (∀ c, (f c).identity = c.identity) →
      apart qs (cs.map (Column.updated e.query f)) = apart qs cs := by
    intro f hf
    refine filter_map_updated (fun c hc => ⟨hq.unseen hc, ?_⟩) cs
    rw [hf]
    exact hq.unseen hc
  have left : apart qs (cs.filter fun c => !c.identity.matches e.query) = apart qs cs := by
    unfold apart
    rw [List.filter_filter]
    refine List.filter_congr fun c _ => ?_
    by_cases hm : c.identity.matches e.query = true
    · simp [hm, hq.unseen hm]
    · simp [hm]
  cases e with
  | declare t n nullable declaration =>
    refine filter_placedIn (c := declared t n nullable declaration) (fun d hd => ?_) cs
    have hm : (declared t n nullable declaration).identity.matches (.column t n) = true :=
      identity_matches_column.mpr ⟨rfl, rfl⟩
    rw [hd]
    exact hq.unseen hm
  | renameTable old new => cases he
  | renameColumn t old new => cases he
  | dropTable t => exact left
  | dropColumn t n => exact left
  | _ => exact kept _ fun _ => rfl

end Edit

end Apart

namespace Edit

theorem onColumns_of_renames {e : Edit} (he : e.renames = true) (naming : Naming) (drawn : Nat)
    (cs : List Column) :
    e.onColumns naming drawn cs = cs.map (Column.updated e.query (e.revise naming drawn)) := by
  cases e <;> first | rfl | cases he

end Edit

namespace Schema

open Edit

variable {qs : List Query} (naming naming' : Naming)

theorem Columnar.columns_renamed_back {s : Schema} (h : s.Columnar) {e d : Edit}
    (he : e.renames = true) (hd : d.renames = true)
    (fresh : ∀ c ∈ s.columns, ¬ c.identity.matches d.query = true)
    (moved : ∀ c : Column, c.identity.matches e.query = true →
      (e.revise naming s.drawn c).identity.matches d.query = true ∧
        d.revise naming' (s.applyEdit naming e).drawn (e.revise naming s.drawn c) = c) :
    ((s.applyEdits naming [e]).applyEdits naming' [d]).columns = s.columns := by
  have first := h.columns_applyEdit naming e
  have second := (h.applyEdit naming e).columns_applyEdit naming' d
  rw [onColumns_of_renames he] at first
  rw [onColumns_of_renames hd, first] at second
  exact second.trans (map_updated_back fresh moved)

theorem Columnar.apart_applyEdits : ∀ {es : List Edit} {s : Schema}, s.Columnar →
    (∀ e ∈ es, e.renames = false ∧ e.Within qs) →
      apart qs (s.applyEdits naming es).columns = apart qs s.columns
  | [], _, _, _ => rfl
  | e :: es, s, h, hes => by
    obtain ⟨he, hq⟩ := hes e List.mem_cons_self
    have ih := Columnar.apart_applyEdits (h.applyEdit naming e)
      fun f hf => hes f (List.mem_cons_of_mem e hf)
    refine ih.trans ?_
    rw [h.columns_applyEdit, apart_onColumns naming s.drawn he hq]

theorem Columnar.columns_drops : ∀ {ds : List Edit} {s : Schema}, s.Columnar →
    (∀ d ∈ ds, d.drops = true) →
      (s.applyEdits naming ds).columns = apart (ds.map Edit.query) s.columns
  | [], _, _, _ => (apart_eq_self (by simp)).symm
  | d :: ds, s, h, hds => by
    have ih := Columnar.columns_drops (h.applyEdit naming d)
      fun f hf => hds f (List.mem_cons_of_mem d hf)
    have hd : d.onColumns naming s.drawn s.columns =
        s.columns.filter fun c => !c.identity.matches d.query := by
      have drops := hds d List.mem_cons_self
      cases d <;> first | rfl | cases drops
    rw [List.map_cons, apart_cons, ← hd, ← h.columns_applyEdit]
    exact ih

/-- Columns that were not there before and are dropped leave no trace. -/
theorem Columnar.columns_dropped {s : Schema} (h : s.Columnar) {es ds : List Edit}
    (hes : ∀ e ∈ es, e.renames = false ∧ e.Within (ds.map Edit.query))
    (hds : ∀ d ∈ ds, d.drops = true)
    (fresh : ∀ d ∈ ds, ∀ c ∈ s.columns, ¬ c.identity.matches d.query = true) :
    ((s.applyEdits naming es).applyEdits naming' ds).columns = s.columns := by
  rw [Columnar.columns_drops naming' (h.applyEdits naming es) hds,
    Columnar.apart_applyEdits naming h hes]
  refine apart_eq_self fun q hq => ?_
  obtain ⟨d, hd, rfl⟩ := List.mem_map.mp hq
  exact fresh d hd

end Schema

/-! ## Changes -/

namespace Change

variable {c d : Change} {t : String}

/-- What a change does that declares columns is about these columns. -/
theorem query_of_mem_declares (he : c.element = .createTable ∨ c.element = .addColumn)
    (ht : c.text? .tableName = some t) : ∀ e ∈ c.script.edits, e.renames = false ∧
      ∃ n ∈ NestedColumn.leadingNames c.nested, e.query = .column t n := by
  intro e hmem
  rw [script_declares he ht, Script.andThen_edits, List.mem_append] at hmem
  rcases hmem with hmem | hmem
  · rw [Script.overColumns_edits, List.mem_flatMap] at hmem
    obtain ⟨p, hp, hmem⟩ := hmem
    rw [List.mem_singleton.mp hmem]
    exact ⟨rfl, p.1, List.mem_map_of_mem hp, rfl⟩
  · split at hmem
    · rw [Script.overColumns_edits, List.mem_flatMap] at hmem
      obtain ⟨p, hp, hmem⟩ := hmem
      obtain ⟨k, -, hmem⟩ := List.mem_flatMap.mp hmem
      obtain ⟨name, kind, rfl⟩ := attach_of_mem_inlineEdits hmem
      exact ⟨rfl, p.1, List.mem_map_of_mem hp, rfl⟩
    · cases hmem

theorem edits_dropTable (he : d.element = .dropTable) (ht : d.text? .tableName = some t) :
    d.script.edits = [.dropTable t] := by
  rw [script_eq_columnScript (by rw [he]; rfl), columnScript_dropTable he ht]

theorem edits_dropColumn (he : d.element = .dropColumn) (ht : d.text? .tableName = some t) :
    d.script.edits = d.droppedColumns.map (.dropColumn t) := by
  rw [script_eq_columnScript (by rw [he]; rfl), columnScript_dropColumn he ht]
  rfl

end Change

namespace Schema

variable {s : Schema} {c d : Change}

theorem Columnar.not_matches_of_not_knows (h : s.Columnar) {t n : String}
    (hk : ¬ s.store.Knows t n) : ∀ c ∈ s.columns, ¬ c.identity.matches (.column t n) = true := by
  intro c hc hm
  obtain ⟨rfl, rfl⟩ := identity_matches_column.mp hm
  exact hk (h.knows_iff.mpr (List.mem_map_of_mem hc))

theorem Columnar.not_matches_table (h : s.Columnar) {t : String}
    (hk : ∀ n, ¬ s.store.Knows t n) : ∀ c ∈ s.columns, ¬ c.identity.matches (.table t) = true := by
  intro c hc hm
  have ht : c.table = t := identity_matches_table.mp hm
  exact h.not_matches_of_not_knows (hk c.name) c hc (identity_matches_column.mpr ⟨ht, rfl⟩)

theorem Columnar.columns_undone (h : s.Columnar) (naming naming' : Naming)
    (hcd : c.UndoneBy s.store d) :
    ((s.replay naming c).1.replay naming' d).1.columns = s.columns := by
  rw [replay_schema, replay_schema]
  cases hcd with
  | @renameTable a b element old new element' old' new' fresh =>
    rw [Change.edits_renameTable element old new, Change.edits_renameTable element' old' new']
    refine h.columns_renamed_back naming naming' rfl rfl (h.not_matches_table fresh) fun c hc => ?_
    obtain rfl := identity_matches_table.mp hc
    simp [Edit.revise, Edit.query]
  | @renameColumn t x y element table old new element' table' old' new' fresh =>
    rw [Change.edits_renameColumn element table old new,
      Change.edits_renameColumn element' table' old' new']
    refine h.columns_renamed_back naming naming' rfl rfl (h.not_matches_of_not_knows fresh)
      fun c hc => ?_
    obtain ⟨rfl, rfl⟩ := identity_matches_column.mp hc
    simp [Edit.revise, Edit.query]
  | @createTable t element table element' table' fresh =>
    rw [Change.edits_dropTable element' table']
    refine h.columns_dropped naming naming' (fun e he => ?_) (by simp [Edit.drops])
      (List.forall_mem_singleton.mpr (h.not_matches_table fresh))
    obtain ⟨keeps, n, -, hq⟩ := Change.query_of_mem_declares (.inl element) table e he
    refine ⟨keeps, .table t, List.mem_cons_self, fun id hm => ?_⟩
    rw [hq, matches_column_iff] at hm
    simp [hm, Identity.matches]
  | @addColumn t element table element' table' same fresh =>
    rw [Change.edits_dropColumn element' table']
    refine h.columns_dropped naming naming' (fun e he => ?_) (by simp [Edit.drops]) ?_
    · obtain ⟨keeps, n, hn, hq⟩ := Change.query_of_mem_declares (.inr element) table e he
      refine ⟨keeps, .column t n, ?_, fun id hm => by rwa [hq] at hm⟩
      exact List.mem_map.mpr ⟨_, List.mem_map_of_mem ((same n).mpr hn), rfl⟩
    · intro d hd
      obtain ⟨n, hn, rfl⟩ := List.mem_map.mp hd
      exact h.not_matches_of_not_knows (fresh n ((same n).mp hn))

/-- A rename to a name that is not known and the rename back, a table that is not known and its
drop, columns that are not known and their drop leave every entry of the store in its place as it
was. -/
theorem store_undone {naming₀ : Naming} (hs : s.Reachable naming₀) (naming naming' : Naming)
    (hcd : c.UndoneBy s.store d) :
    ((s.replay naming c).1.replay naming' d).1.store = s.store := by
  have before : s.store = .ofColumns s.columns := hs.columnar
  have after := (hs.columnar.replay naming c).replay naming' d
  rw [before, after, hs.columnar.columns_undone naming naming' hcd]

/-- Changes to a table with two columns under one identity, and a table whose columns are declared
twice with constraints, in a store that knows none of the new names. -/
theorem store_undone_of_repeated :
    let s := empty.replayAll (fun _ => "k")
      [.ofTexts .createTable [(.tableName, "t")] [.ofName "a", .ofType "b" "int"],
        .ofTexts .renameColumn
          [(.tableName, "t"), (.oldColumnName, "a"), (.newColumnName, "b")] [],
        .ofTexts .createTable [(.tableName, "u")] [.ofKey "a" "pk"]]
    let undone (c d : Change) :=
      c.UndoneBy s.store d ∧ (s.replay (fun _ => "k") c).1.store ≠ s.store ∧
        ((s.replay (fun _ => "k") c).1.replay (fun _ => "k") d).1.store = s.store
    s.Reachable (fun _ => "k") ∧ ¬ s.store.keys.Nodup ∧
      undone (.ofTexts .renameTable [(.oldTableName, "t"), (.newTableName, "v")] [])
        (.ofTexts .renameTable [(.oldTableName, "v"), (.newTableName, "t")] []) ∧
      undone
        (.ofTexts .renameColumn
          [(.tableName, "t"), (.oldColumnName, "b"), (.newColumnName, "c")] [])
        (.ofTexts .renameColumn
          [(.tableName, "t"), (.oldColumnName, "c"), (.newColumnName, "b")] []) ∧
      undone
        (.ofTexts .createTable [(.tableName, "v")] [.ofKey "a" "pk", .ofName "b", .ofKey "a" "qk"])
        (.ofTexts .dropTable [(.tableName, "v")] []) ∧
      undone (.ofTexts .addColumn [(.tableName, "t")] [.ofKey "c" "pk", .ofName "d", .ofName "c"])
        (.ofTexts .dropColumn [(.tableName, "t"), (.columnName, "d")] [.ofName "c"]) := by
  intro s undone
  have hs : s.Reachable (fun _ => "k") := ⟨_, rfl⟩
  have keys : s.store.keys = [.column "t" "b", .column "t" "b", .column "u" "a"] := by
    decide +kernel
  have restored {c d : Change} (hcd : c.UndoneBy s.store d)
      (changed : (s.replay (fun _ => "k") c).1.store ≠ s.store) : undone c d :=
    ⟨hcd, changed, store_undone hs (fun _ => "k") (fun _ => "k") hcd⟩
  have noTable : ∀ n, ¬ s.store.Knows "v" n := by simp [Store.Knows, keys]
  refine ⟨hs, by simp [keys], restored ?_ (by decide +kernel), restored ?_ (by decide +kernel),
    restored ?_ (by decide +kernel), restored ?_ (by decide +kernel)⟩
  · exact .renameTable rfl rfl rfl rfl rfl rfl noTable
  · exact .renameColumn (t := "t") (y := "c") rfl rfl rfl rfl rfl rfl rfl rfl
      (by simp [Store.Knows, keys])
  · exact .createTable rfl rfl rfl rfl noTable
  · refine .addColumn (t := "t") rfl rfl rfl rfl ?_ ?_
    · change ∀ n, n ∈ ["d", "c"] ↔ n ∈ ["c", "d", "c"]
      grind
    · change ∀ n ∈ ["c", "d", "c"], ¬ s.store.Knows "t" n
      simp [Store.Knows, keys]

end Schema

end MigrationAudit
