import MigrationAudit.Proofs.Check.Blame
import MigrationAudit.Proofs.Check.RowOverflow
import MigrationAudit.Proofs.Schema.Undone

/-!
# New columns in a row

Edits that are not about the columns of a store leave them in front of what else they bring about
(`Edit.onColumns_append`).  So a change that declares columns which are not known appends them to
the columns of its table (`Schema.Columnar.exists_columns_replay`), and if the check of the row finds
nothing in the columns before the change, it blames none of them after it
(`Check.rowBudget_of_new_columns`).
-/

namespace MigrationAudit

/-! ## Columns that are appended -/

theorem Column.placedIn_append {c : Column} (new : List Column) : ∀ {old : List Column},
    (∀ d ∈ old, d.identity ≠ c.identity) → c.placedIn (old ++ new) = old ++ c.placedIn new
  | [], _ => rfl
  | d :: old, h => by
    have ih := placedIn_append new fun e he => h e (List.mem_cons_of_mem d he)
    rw [List.cons_append, placedIn, if_neg (h d List.mem_cons_self), ih, List.cons_append]

namespace Edit

/-- An edit works behind columns that it is not about. -/
theorem onColumns_append (naming : Naming) (drawn : Nat) {e : Edit} {old : List Column}
    (fresh : ∀ c ∈ old, ¬ c.identity.matches e.query = true) (new : List Column) :
    e.onColumns naming drawn (old ++ new) = old ++ e.onColumns naming drawn new := by
  have revised : ∀ f, (old ++ new).map (Column.updated e.query f) =
      old ++ new.map (Column.updated e.query f) := by
    intro f
    rw [List.map_append, map_updated_of_unknown f fresh]
  have dropped : (old ++ new).filter (fun c => !c.identity.matches e.query) =
      old ++ new.filter fun c => !c.identity.matches e.query := by
    rw [List.filter_append, List.filter_eq_self.mpr]
    simpa using fresh
  cases e with
  | declare t n nullable declaration =>
    refine Column.placedIn_append new fun d hd hid => fresh d hd ?_
    rw [hid]
    exact identity_matches_column.mpr ⟨rfl, rfl⟩
  | dropTable t => exact dropped
  | dropColumn t n => exact dropped
  | _ => exact revised _

end Edit

namespace Schema

variable (naming : Naming)

theorem Columnar.exists_columns_applyEdits {old : List Column} : ∀ {es : List Edit} {s : Schema}
    {new : List Column}, s.Columnar → s.columns = old ++ new →
      (∀ e ∈ es, ∀ c ∈ old, ¬ c.identity.matches e.query = true) →
        ∃ new', (s.applyEdits naming es).columns = old ++ new'
  | [], _, new, _, hs, _ => ⟨new, hs⟩
  | e :: es, s, new, h, hs, fresh => by
    have step : (s.applyEdit naming e).columns = old ++ e.onColumns naming s.drawn new := by
      rw [h.columns_applyEdit, hs,
        Edit.onColumns_append naming s.drawn (fresh e List.mem_cons_self)]
    have rest : ∃ new', ((s.applyEdit naming e).applyEdits naming es).columns = old ++ new' :=
      Columnar.exists_columns_applyEdits (h.applyEdit naming e) step
        fun f hf => fresh f (List.mem_cons_of_mem e hf)
    exact rest

theorem Columnar.exists_columns_replay {s : Schema} (h : s.Columnar) {c : Change} {t : String}
    (he : c.element = .createTable ∨ c.element = .addColumn) (ht : c.text? .tableName = some t)
    (fresh : ∀ n ∈ NestedColumn.leadingNames c.nested, ¬ s.store.Knows t n) :
    ∃ new, (s.replay naming c).1.columns = s.columns ++ new ∧
      ∀ d ∈ new, d.name ∈ NestedColumn.leadingNames c.nested := by
  let qs := (NestedColumn.leadingNames c.nested).map (Query.column t)
  have unknown : ∀ q ∈ qs, ∀ d ∈ s.columns, ¬ d.identity.matches q = true := by
    intro q hq
    obtain ⟨n, hn, rfl⟩ := List.mem_map.mp hq
    exact h.not_matches_of_not_knows (fresh n hn)
  have within : ∀ e ∈ c.script.edits, e.renames = false ∧ e.query ∈ qs := by
    intro e hmem
    obtain ⟨keeps, n, hn, hq⟩ := Change.query_of_mem_declares he ht e hmem
    exact ⟨keeps, hq ▸ List.mem_map_of_mem hn⟩
  rw [replay_schema]
  obtain ⟨new, hnew⟩ := h.exists_columns_applyEdits naming (List.append_nil s.columns).symm
    fun e hmem => unknown e.query (within e hmem).2
  refine ⟨new, hnew, fun d hd => ?_⟩
  -- apart from what is declared, nothing has changed
  have same : apart qs (s.applyEdits naming c.script.edits).columns = apart qs s.columns :=
    h.apart_applyEdits naming
      fun e hmem => ⟨(within e hmem).1, e.query, (within e hmem).2, fun _ hid => hid⟩
  rw [hnew, apart, List.filter_append] at same
  have none : new.filter (fun d => qs.all fun q => !d.identity.matches q) = [] :=
    List.append_right_eq_self.mp same
  have found := List.filter_eq_nil_iff.mp none d hd
  simp only [List.all_eq_true, Bool.not_eq_true', not_forall, Bool.not_eq_false] at found
  obtain ⟨q, hq, hm⟩ := found
  obtain ⟨n, hn, rfl⟩ := List.mem_map.mp hq
  obtain ⟨-, rfl⟩ := identity_matches_column.mp hm
  exact hn

end Schema

namespace Check

/-- If the check of the row blames no column of a table, then of a table with more columns behind
these it blames none but one that is new. -/
theorem rowBudget_of_columns_append {limit : Nat} {store store' : Store} {place : ChangePlace}
    {t : String} {new : List Column} (table : place.change.table? = some t)
    (columns : store'.columns (.table t) = store.columns (.table t) ++ new)
    (before : ∀ issue, rowBudget limit store place ≠ .ok [issue]) {issues : List Issue}
    (after : rowBudget limit store' place = .ok issues) :
    ∀ issue ∈ issues, ∃ c ∈ new, issue = rowIssue place t limit c := by
  intro issue hissue
  have quiet : ∀ c, overflow? limit 0 (store.columns (.table t)) ≠ .ok (some c) := fun c hc =>
    before (rowIssue place t limit c) ((rowBudget_eq_issue_iff table).mpr ⟨c, hc, rfl⟩)
  rw [rowBudget_eq table, columns] at after
  cases ho : overflow? limit 0 (store.columns (.table t) ++ new) with
  | error failure =>
    rw [ho] at after
    cases after
  | ok blamed =>
    rw [ho] at after
    obtain rfl := Except.ok.inj after
    cases blamed with
    | none => cases hissue
    | some c => exact ⟨c, mem_of_overflow?_append ho quiet, List.mem_singleton.mp hissue⟩

/-- If the columns that a change declares are not known and the check of the row would blame no
column before the change, then after it the check blames none but a column that the change
declares. -/
theorem rowBudget_of_new_columns {s : Schema} {naming₀ : Naming} (hs : s.Reachable naming₀)
    (naming : Naming) {place : ChangePlace}
    (he : place.change.element = .createTable ∨ place.change.element = .addColumn)
    (fresh : ∀ t n x, place.change.text? .tableName = some t → n ∈ place.change.nested →
      n.name? = some x → ¬ s.store.Knows t x)
    {limit : Nat} (before : ∀ issue, rowBudget limit s.store place ≠ .ok [issue])
    {issues : List Issue}
    (after : rowBudget limit (s.replay naming place.change).1.store place = .ok issues) :
    ∀ issue ∈ issues, ∃ t n x, place.change.text? .tableName = some t ∧
      n ∈ place.change.nested ∧ n.name? = some x ∧
      issue = Issue.ofChange place (some "column") (.rowTooLarge t x limit) := by
  intro issue hissue
  have table : place.change.table? = place.change.text? .tableName := by
    rw [Change.table?]
    rcases he with he | he <;> rw [he] <;> rfl
  cases ht : place.change.text? .tableName with
  | none =>
    rw [rowBudget, table, ht] at after
    cases after
    cases hissue
  | some t =>
    rw [ht] at table
    have declared : ∀ x ∈ NestedColumn.leadingNames place.change.nested,
        ∃ n ∈ place.change.nested, n.name? = some x := by
      intro x hx
      obtain ⟨p, hp, rfl⟩ := List.mem_map.mp hx
      exact ⟨p.2, NestedColumn.mem_of_mem_leading hp⟩
    obtain ⟨new, hnew, names⟩ := hs.columnar.exists_columns_replay naming he ht fun x hx => by
      obtain ⟨n, hn, hname⟩ := declared x hx
      exact fresh t n x ht hn hname
    have columns : (s.replay naming place.change).1.store.columns (.table t) =
        s.store.columns (.table t) ++ new.filter fun c => c.identity.matches (.table t) := by
      rw [(hs.columnar.replay naming place.change).columns_eq, hs.columnar.columns_eq, hnew,
        List.filter_append]
    obtain ⟨c, hc, rfl⟩ := rowBudget_of_columns_append table columns before after issue hissue
    obtain ⟨n, hn, hname⟩ := declared c.name (names c (List.mem_filter.mp hc).1)
    exact ⟨t, n, c.name, rfl, hn, hname, rfl⟩

/-- A column that is declared twice, at last too long for the row, behind one that fits. -/
theorem rowBudget_of_new_columns_repeated :
    let naming : Naming := fun _ => "k"
    let s := Schema.empty.replayAll naming
      [.ofTexts .createTable [(.tableName, "t")] [.ofType "a" "CHAR(10)"]]
    let place := ChangePlace.alone
      (.ofTexts .addColumn [(.tableName, "t")] [.ofType "b" "CHAR(5)", .ofType "b" "CHAR(100)"])
    s.Reachable naming ∧ s.store.keys = [.column "t" "a"] ∧
      rowBudget 100 s.store place = .ok [] ∧
      ∃ issue t n x,
        rowBudget 100 (s.replay naming place.change).1.store place = .ok [issue] ∧
        n ∈ place.change.nested ∧ n.name? = some x ∧
        issue = Issue.ofChange place (some "column") (.rowTooLarge t x 100) := by
  intro naming s place
  have hs : s.Reachable naming := ⟨_, rfl⟩
  have keys : s.store.keys = [.column "t" "a"] := by decide +kernel
  have before : rowBudget 100 s.store place = .ok [] := by decide +kernel
  have after : rowBudget 100 (s.replay naming place.change).1.store place =
      .ok [Issue.ofChange place (some "column") (.rowTooLarge "t" "b" 100)] := by decide +kernel
  have names : ∀ n ∈ place.change.nested, n.name? = some "b" := by decide
  obtain ⟨t, n, x, -, hn, hx, hissue⟩ := rowBudget_of_new_columns hs naming (.inr rfl)
    (fun t n x _ hn hx => by
      obtain rfl : "b" = x := Option.some.inj ((names n hn).symm.trans hx)
      simp [Store.Knows, keys])
    (fun issue h => by simp [before] at h) after _ List.mem_cons_self
  exact ⟨hs, keys, before, _, t, n, x, after, hn, hx, hissue⟩

end Check

end MigrationAudit
