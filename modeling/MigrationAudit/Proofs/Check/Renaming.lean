import Mathlib.Data.List.Find
import MigrationAudit.Proofs.Schema.Distinct
import MigrationAudit.Session.Catalogue

/-!
# Judging renamed columns

A rename is judged after it has been replayed, on the column that the store then finds under the new
name.  That is the first column of the table that bore the old or the new name before
(`Schema.Columnar.column?_replay_renameColumn`), so the judgement is the one that the renamed column
deserves exactly if this first column has the same constraints on it.
-/

namespace MigrationAudit

namespace Store

/-- The constraints on a column, none if it is not known. -/
def constraintsOn (s : Store) (table column : String) : List Constraint :=
  (s.column? table column).elim [] (·.constraints)

/-- The constraints on the first column of a table that bears one of two names. -/
def constraintsOnFirst (s : Store) (table old new : String) : List Constraint :=
  ((s.columns (.table table)).find? fun c => c.name = old ∨ c.name = new).elim [] (·.constraints)

end Store

namespace Schema

variable {s : Schema} (naming : Naming)

theorem replay_renameColumn {c : Change} {t old new : String} (he : c.element = .renameColumn)
    (ht : c.text? .tableName = some t) (ho : c.text? .oldColumnName = some old)
    (hn : c.text? .newColumnName = some new) :
    (s.replay naming c).1 = s.applyEdit naming (.renameColumn t old new) := by
  rw [replay_schema, Change.edits_renameColumn he ht ho hn]
  rfl

theorem updated_name_matches_iff (c : Column) (t old new : String) :
    (Column.updated (.column t old) (fun c => { c with name := new }) c).identity.matches
        (.column t new) = true ↔ c.table = t ∧ (c.name = old ∨ c.name = new) := by
  unfold Column.updated
  split
  · obtain ⟨ht, ho⟩ := identity_matches_column.mp ‹_›
    simp [ht, ho]
  · rename_i h
    rw [identity_matches_column] at h ⊢
    tauto

/-- After a rename the store finds under the new name what was the first column of either name. -/
theorem Columnar.column?_replay_renameColumn (h : s.Columnar) {c : Change} {t old new : String}
    (he : c.element = .renameColumn) (ht : c.text? .tableName = some t)
    (ho : c.text? .oldColumnName = some old) (hn : c.text? .newColumnName = some new) :
    (s.replay naming c).1.store.column? t new =
      ((s.store.columns (.table t)).find? fun c => c.name = old ∨ c.name = new).map
        (Column.updated (.column t old) fun c => { c with name := new }) := by
  rw [replay_renameColumn naming he ht ho hn, (h.applyEdit naming _).column?_eq,
    h.columns_applyEdit, h.columns_eq, List.find?_filter]
  simp only [Edit.onColumns, Edit.query, List.find?_map]
  congr 2
  funext d
  refine Bool.eq_iff_iff.mpr ((updated_name_matches_iff d t old new).trans ?_)
  simp

theorem Columnar.constraintsOn_replay_renameColumn (h : s.Columnar) {c : Change}
    {t old new : String} (he : c.element = .renameColumn) (ht : c.text? .tableName = some t)
    (ho : c.text? .oldColumnName = some old) (hn : c.text? .newColumnName = some new) :
    (s.replay naming c).1.store.constraintsOn t new = s.store.constraintsOnFirst t old new := by
  unfold Store.constraintsOn Store.constraintsOnFirst
  rw [h.column?_replay_renameColumn naming he ht ho hn]
  cases (s.store.columns (.table t)).find? fun c => c.name = old ∨ c.name = new with
  | none => rfl
  | some d =>
    simp only [Option.map_some, Option.elim, Column.updated]
    split <;> rfl

/-- If the new name is not known, the first column of either name is the first of the old one. -/
theorem Columnar.constraintsOnFirst_of_not_knows (h : s.Columnar) {t old new : String}
    (hn : ¬ s.store.Knows t new) :
    s.store.constraintsOnFirst t old new = s.store.constraintsOn t old := by
  rw [h.knows_iff] at hn
  unfold Store.constraintsOn Store.constraintsOnFirst
  rw [h.columns_eq, List.find?_filter, h.column?_eq]
  congr 1
  refine List.find?_congr fun c hc => Bool.eq_iff_iff.mpr ?_
  have hcn : ¬ (c.table = t ∧ c.name = new) := by
    rintro ⟨rfl, rfl⟩
    exact hn (List.mem_map.mpr ⟨c, hc, rfl⟩)
  rw [decide_eq_true_iff, decide_eq_true_iff, identity_matches_table, identity_matches_column]
  tauto

end Schema

namespace Check

/-- The issue that a rename deserves if there are constraints on the renamed column. -/
def renameIssues (place : ChangePlace) (table old : String) (constraints : List Constraint) :
    List Issue :=
  if constraints = [] then []
  else [Issue.ofChange place none (.renamedWhileReferred table old constraints)]

theorem renameIssues_injective (place : ChangePlace) (t old : String) :
    Function.Injective (renameIssues place t old) := by
  intro ks ks' h
  simp only [renameIssues] at h
  split at h <;> split at h <;>
    simp_all [Issue.ofChange, Issue.ofElement, Issue.ofSet, Issue.ofChangelog]

section Rename

variable {place : ChangePlace} {t old new : String}
  (he : place.change.element = .renameColumn) (ht : place.change.text? .tableName = some t)
  (ho : place.change.text? .oldColumnName = some old)
  (hn : place.change.text? .newColumnName = some new)

include he ht ho hn

theorem referredColumn_renameColumn (store : Store) :
    referredColumn store place = .ok (renameIssues place t old (store.constraintsOn t new)) := by
  have hc : renamedCause? store place.change = .ok ((store.column? t new).bind fun column =>
      causeIf (!column.constraints.isEmpty)
        (.renamedWhileReferred t old column.constraints)) := by
    simp [renamedCause?, Change.require, ht, ho, hn, bind, Except.bind, pure, Except.pure]
  simp only [referredColumn, he, hc, bind, Except.bind, pure, Except.pure, Except.ok.injEq]
  unfold Store.constraintsOn renameIssues
  cases store.column? t new with
  | none => rfl
  | some c => cases hk : c.constraints <;> simp [hk, onChange, causeIf]

/-- The judgement of a replayed rename is about the first column that bore the old or the new name.
It is the judgement of the renamed column, as it was known before, exactly if the constraints on
both are the same, and so whenever the new name was not known. -/
theorem referredColumn_rename_iff {naming : Naming} {s : Schema} (hs : s.Reachable naming)
    (policy : Policy) (memory : Memory) :
    (ChangeCheck.referredColumn.run policy (s.replay naming place.change).1.store place memory).1 =
        .ok (renameIssues place t old (s.store.constraintsOnFirst t old new)) ∧
      ((ChangeCheck.referredColumn.run policy (s.replay naming place.change).1.store place
            memory).1 = .ok (renameIssues place t old (s.store.constraintsOn t old)) ↔
        s.store.constraintsOnFirst t old new = s.store.constraintsOn t old) ∧
      (¬ s.store.Knows t new →
        (ChangeCheck.referredColumn.run policy (s.replay naming place.change).1.store place
            memory).1 = .ok (renameIssues place t old (s.store.constraintsOn t old))) := by
  have hr : (ChangeCheck.referredColumn.run policy (s.replay naming place.change).1.store place
      memory).1 = .ok (renameIssues place t old (s.store.constraintsOnFirst t old new)) := by
    have hc := hs.columnar.constraintsOn_replay_renameColumn naming he ht ho hn
    rw [← hc]
    exact referredColumn_renameColumn he ht ho hn _
  refine ⟨hr, ?_, fun hk => ?_⟩
  · rw [hr, Except.ok.injEq]
    exact (renameIssues_injective place t old).eq_iff
  · rw [hr, hs.columnar.constraintsOnFirst_of_not_knows hk]

end Rename

/-- A primary key forbids to rename its column to a name that no column of the table has. -/
theorem referredColumn_rename_of_key :
    let s := Schema.empty.replayAll (fun _ => "")
      [.ofTexts .createTable [(.tableName, "t")] [.ofName "b", .ofKey "a" "pk"]]
    let place := ChangePlace.alone (.ofTexts .renameColumn
      [(.tableName, "t"), (.oldColumnName, "a"), (.newColumnName, "c")] [])
    ¬ s.store.Knows "t" "c" ∧
      (ChangeCheck.referredColumn.run .plain (s.replay (fun _ => "") place.change).1.store place
        .empty).1 = .ok (renameIssues place "t" "a" [⟨.primaryKey, .declared "pk"⟩]) := by
  intro s place
  have hs : s.Reachable (fun _ => "") := ⟨_, rfl⟩
  have hk : ¬ s.store.Knows "t" "c" := by
    unfold Store.Knows
    decide
  have he : place.change.element = .renameColumn := rfl
  exact ⟨hk, (referredColumn_rename_iff he rfl rfl rfl hs .plain .empty).2.2 hk⟩

/-- If the new name is that of an earlier column, the primary key does not count. -/
theorem referredColumn_rename_of_known_name :
    let s := Schema.empty.replayAll (fun _ => "")
      [.ofTexts .createTable [(.tableName, "t")] [.ofName "b", .ofKey "a" "pk"]]
    let place := ChangePlace.alone (.ofTexts .renameColumn
      [(.tableName, "t"), (.oldColumnName, "a"), (.newColumnName, "b")] [])
    s.store.constraintsOn "t" "a" ≠ [] ∧
      (ChangeCheck.referredColumn.run .plain (s.replay (fun _ => "") place.change).1.store place
        .empty).1 = .ok [] := by
  intro s place
  have he : place.change.element = .renameColumn := rfl
  exact ⟨by decide, referredColumn_renameColumn he rfl rfl rfl _⟩

end Check

end MigrationAudit
