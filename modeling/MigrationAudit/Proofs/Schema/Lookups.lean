import Mathlib.Data.List.Basic
import MigrationAudit.Proofs.Schema.Columns

/-!
# What look-ups find

In the store that changes lead to every entry is a column under its own identity, so the ways to
look for columns agree (`Schema.lookups_replayAll`): what a query finds, what it removes and what it
updates are equally many, and a column is found by its table and name exactly if it is stored under
them.  That an update reaches the columns that its query finds is said of one that counts them as it
goes (`Store.updateCounting_entries`).
-/

namespace MigrationAudit

namespace Store

/-! ## Counting -/

/-- Entries after an update of the columns that a query finds, and how many it reached. -/
def updateCounting (q : Query) (f : Column → Column) :
    List (Identity × Entity) → List (Identity × Entity) × Nat
  | [] => ([], 0)
  | (id, .column c) :: ps =>
    let rest := updateCounting q f ps
    if id.matches q then (((f c).identity, .column (f c)) :: rest.1, rest.2 + 1)
    else ((id, .column c) :: rest.1, rest.2)
  | (id, .constraint c) :: ps =>
    let rest := updateCounting q f ps
    ((id, .constraint c) :: rest.1, rest.2)

theorem updateCounting_entries (s : Store) (q : Query) (f : Column → Column) :
    updateCounting q f s.entries = ((s.update q f).entries, s.updateCount q) := by
  obtain ⟨entries⟩ := s
  simp only [update, updateCount, columns, matching]
  induction entries with
  | nil => rfl
  | cons p ps ih =>
    obtain ⟨id, c | c⟩ := p
    all_goals
      simp only [updateCounting, ih, List.map_cons, List.filter_cons, updateEntry]
      split <;> simp [Entity.column?, List.filterMap_cons]

/-! ## Stores of columns -/

variable (cs : List Column)

theorem mem_entries_ofColumns {p : Identity × Entity} (h : p ∈ (ofColumns cs).entries) :
    ∃ c, p = (c.identity, .column c) := by
  obtain ⟨c, -, rfl⟩ := List.mem_map.mp h
  exact ⟨c, rfl⟩

theorem constraints_ofColumns (q : Query) : (ofColumns cs).constraints q = [] := by
  refine List.filterMap_eq_nil_iff.mpr fun e he => ?_
  obtain ⟨p, hp, rfl⟩ := List.mem_map.mp he
  obtain ⟨c, hc⟩ := mem_entries_ofColumns cs (List.mem_filter.mp hp).1
  rw [hc]
  rfl

theorem containsKey_ofColumns (q : Query) :
    (ofColumns cs).containsKey q = cs.any fun c => c.identity.matches q := by
  simp only [containsKey, ofColumns, List.any_map]
  rfl

/-- As many columns go as the query finds. -/
theorem size_removeMatching_ofColumns (q : Query) :
    (ofColumns cs).size - ((ofColumns cs).removeMatching q).size =
      ((ofColumns cs).columns q).length := by
  have parts : cs.length = (cs.filter fun c => c.identity.matches q).length +
      (cs.filter fun c => !c.identity.matches q).length :=
    List.length_eq_length_filter_add _
  rw [removeMatching_ofColumns, size_ofColumns, size_ofColumns, columns_ofColumns]
  omega

theorem get?_ofColumns (t n : String) :
    (ofColumns cs).get? (.column t n) = ((ofColumns cs).column? t n).map .column := by
  have same : ∀ c : Column,
      (c.identity == .column t n) = c.identity.matches (.column t n) := fun c => by
    rw [Bool.eq_iff_iff, beq_iff_eq, matches_column_iff]
  rw [column?_ofColumns, get?, ofColumns, List.find?_map, Option.map_map]
  simp only [Function.comp_def, same]

theorem named_of_column?_ofColumns {t n : String} {c : Column}
    (h : (ofColumns cs).column? t n = some c) : c.table = t ∧ c.name = n := by
  rw [column?_ofColumns] at h
  have hm : c.identity.matches (.column t n) = true := by simpa using List.find?_some h
  exact identity_matches_column.mp hm

end Store

namespace Schema

/-- After changes, whatever failed among them, every entry is a column under its own identity.  So a
query finds as many columns as it removes and as an update of them reaches, some exactly if it finds
a key; and look-ups of a column by its identity and by its table and name agree. -/
theorem lookups_replayAll (naming : Naming) (changes : List Change) :
    let s := (empty.replayAll naming changes).store
    (∀ p ∈ s.entries, ∃ c, p = (c.identity, .column c)) ∧
      (∀ q, s.constraints q = [] ∧
        s.size - (s.removeMatching q).size = (s.columns q).length ∧
        (∀ f, Store.updateCounting q f s.entries =
          ((s.update q f).entries, (s.columns q).length)) ∧
        (0 < (s.columns q).length ↔ s.containsKey q = true)) ∧
      ∀ t n, s.get? (.column t n) = (s.column? t n).map .column ∧
        ∀ c, s.column? t n = some c → c.table = t ∧ c.name = n := by
  intro s
  obtain ⟨cs, hs⟩ : ∃ cs, s = .ofColumns cs := ⟨_, columnar_empty.replayAll naming changes⟩
  rw [hs]
  refine ⟨fun p => Store.mem_entries_ofColumns cs, fun q => ⟨?_, ?_, fun f => ?_, ?_⟩,
    fun t n => ⟨?_, fun c => ?_⟩⟩
  · exact Store.constraints_ofColumns cs q
  · exact Store.size_removeMatching_ofColumns cs q
  · exact Store.updateCounting_entries _ q f
  · rw [Store.columns_ofColumns, Store.containsKey_ofColumns, List.length_pos_iff_exists_mem]
    simp only [List.mem_filter, List.any_eq_true]
  · exact Store.get?_ofColumns cs t n
  · exact Store.named_of_column?_ofColumns cs

end Schema

end MigrationAudit
