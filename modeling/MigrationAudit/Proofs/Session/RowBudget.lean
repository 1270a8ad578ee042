import MigrationAudit.Proofs.Check.RowBudget
import MigrationAudit.Proofs.Schema.Distinct
import MigrationAudit.Proofs.Schema.Typing
import MigrationAudit.Proofs.Session.Course

/-!
# Rows in a session

The check of rows looks at the table of a change that declares columns or changes their types.  No
other table can grow: an edit leaves a table the sizes it had or fewer
(`Edit.sublist_rowSizes_onColumns`), unless the edit types columns of the table or renames another
table to it.  So if no table is renamed onto one that has columns, a session in which the check
finds nothing keeps every table within the limit (`Audit.rowsFit_of_judgeLogs`).
-/

namespace MigrationAudit

open Storage

/-- The bytes of a column depend on its type alone. -/
theorem rowSize_eq_of_typing {c d : Column} (h : c.typing = d.typing) : rowSize c = rowSize d := by
  obtain ⟨hbase, hlength⟩ := Typing.mk.inj h
  unfold rowSize storedType? declaredLength?
  rw [hbase, hlength]

/-- The columns of a table. -/
def columnsIn (t : String) (cs : List Column) : List Column := cs.filter (·.table = t)

theorem Schema.Columnar.columnsIn_eq {s : Schema} (h : s.Columnar) (t : String) :
    s.store.columns (.table t) = columnsIn t s.columns := by
  rw [h.columns_eq]
  refine List.filter_congr fun c _ => Bool.eq_iff_iff.mpr ?_
  rw [identity_matches_table, decide_eq_true_iff]

section Sizes

variable {t t' : String} {cs : List Column}

/-- If what is in a table after a step was in a table before it, with the same sizes, then nothing
else is in it. -/
theorem sublist_rowSizes_map {f : Column → Column} : ∀ {cs : List Column},
    (∀ c ∈ cs, (f c).table = t → c.table = t' ∧ (f c).typing = c.typing) →
      ((columnsIn t (cs.map f)).map rowSize).Sublist ((columnsIn t' cs).map rowSize)
  | [], _ => .slnil
  | c :: cs, h => by
    have ih := sublist_rowSizes_map fun d hd => h d (List.mem_cons_of_mem c hd)
    by_cases hf : (f c).table = t
    · obtain ⟨hc, hsize⟩ := h c List.mem_cons_self hf
      simpa [columnsIn, hf, hc, rowSize_eq_of_typing hsize] using ih
    · by_cases hc : c.table = t'
      · simpa [columnsIn, hf, hc] using ih.cons (rowSize c)
      · simpa [columnsIn, hf, hc] using ih

theorem columnsIn_placedIn {c : Column} (hc : c.table ≠ t) : ∀ cs : List Column,
    columnsIn t (c.placedIn cs) = columnsIn t cs
  | [] => by simp [Column.placedIn, columnsIn, hc]
  | d :: cs => by
    have ih := columnsIn_placedIn hc cs
    unfold Column.placedIn
    split
    · next hd =>
      have hdt : d.table ≠ t := by
        rw [(Identity.column.inj hd).1]
        exact hc
      simp [columnsIn, hc, hdt]
    · simp only [columnsIn, List.filter_cons] at ih ⊢
      rw [ih]

end Sizes

/-! ## Edits -/

namespace Edit

/-- The table in which an edit types columns. -/
def typedTable? : Edit → Option String
  | .declare t _ _ _ => some t
  | .setType t _ _ => some t
  | _ => none

variable {naming : Naming} {drawn : Nat} {e : Edit} {t : String} {cs : List Column}

theorem sublist_rowSizes_onColumns (ht : e.typedTable? ≠ some t)
    (hr : ∀ old, e ≠ .renameTable old t) :
    ((columnsIn t (e.onColumns naming drawn cs)).map rowSize).Sublist
      ((columnsIn t cs).map rowSize) := by
  have dropped : ∀ p : Column → Bool, ((columnsIn t (cs.filter p)).map rowSize).Sublist
      ((columnsIn t cs).map rowSize) :=
    fun p => (List.filter_sublist.filter _).map rowSize
  -- an update that keeps tables, and types in this one
  have updated : ∀ {q : Query} {f : Column → Column}, (∀ c, (f c).table = c.table) →
      (∀ c, c.identity.matches q = true → c.table = t → (f c).typing = c.typing) →
        ((columnsIn t (cs.map (Column.updated q f))).map rowSize).Sublist
          ((columnsIn t cs).map rowSize) := by
    intro q f htable htyping
    refine sublist_rowSizes_map fun c _ hc => ?_
    unfold Column.updated at hc ⊢
    split at hc
    · next hq =>
      rw [htable] at hc
      exact ⟨hc, by rw [if_pos hq, htyping c hq hc]⟩
    · next hq => exact ⟨hc, by rw [if_neg hq]⟩
  cases e with
  | declare t' n nullable declaration =>
    have hne : t' ≠ t := fun h => ht (congrArg some h)
    rw [onColumns, columnsIn_placedIn hne]
  | setType t' n declaration =>
    refine updated (fun c => rfl) fun c hq hc => ?_
    obtain ⟨htable, -⟩ := identity_matches_column.mp hq
    exact absurd (congrArg some (htable.symm.trans hc)) ht
  | renameTable old new =>
    refine sublist_rowSizes_map fun c _ hc => ?_
    unfold Column.updated at hc ⊢
    split at hc
    · exact absurd (congrArg (renameTable old) hc) (hr old)
    · next hq => exact ⟨hc, by rw [if_neg hq]⟩
  | dropTable t' => exact dropped _
  | dropColumn t' n => exact dropped _
  | _ => exact updated (fun c => rfl) fun c _ _ => rfl

theorem typedTable?_of_constrains (h : e.constrains = true) : e.typedTable? = none := by
  cases e <;> first | rfl | simp [constrains] at h

/-- A table that is renamed to one without columns brings its columns there and nothing else. -/
theorem sublist_rowSizes_renameTable {old : String} (ht : columnsIn t cs = []) :
    ((columnsIn t ((renameTable old t).onColumns naming drawn cs)).map rowSize).Sublist
      ((columnsIn old cs).map rowSize) := by
  refine sublist_rowSizes_map fun c hmem hc => ?_
  unfold Column.updated at hc ⊢
  split at hc
  · next hq => exact ⟨identity_matches_table.mp hq, by rw [if_pos hq]; rfl⟩
  · have hin : c ∈ columnsIn t cs := List.mem_filter.mpr ⟨hmem, decide_eq_true hc⟩
    rw [ht] at hin
    cases hin

end Edit

/-! ## Changes -/

namespace Change

variable {c : Change} {e : Edit} {t : String}

/-- A change types columns of its table alone, and only if it declares columns or changes types. -/
theorem typedTable?_of_mem_script (he : e ∈ c.script.edits) (ht : e.typedTable? = some t) :
    (c.element = .createTable ∨ c.element = .addColumn ∨ c.element = .modifyDataType ∨
      c.element = .resizeDataType) ∧ c.text? .tableName = some t := by
  rcases mem_script he with he | he
  · cases c.columnEdit_of_mem_columnScript e he with
    | declare element table nested =>
      obtain rfl := Option.some.inj ht
      exact ⟨by tauto, table⟩
    | setType element table column =>
      obtain rfl := Option.some.inj ht
      exact ⟨by tauto, table⟩
    | _ => simp [Edit.typedTable?] at ht
  · rw [Edit.typedTable?_of_constrains (c.constrains_of_mem_constraintScript e he)] at ht
    cases ht

theorem not_renameTable_mem_script (h : c.element ≠ .renameTable) (old new : String) :
    .renameTable old new ∉ c.script.edits := by
  intro he
  rcases mem_script he with he | he
  · cases c.columnEdit_of_mem_columnScript _ he with
    | renameTable element => exact h element
  · have hc := c.constrains_of_mem_constraintScript _ he
    simp [Edit.constrains] at hc

end Change

namespace Schema

/-- The known columns of every table fit into a row. -/
def RowsFit (limit : Nat) (s : Schema) : Prop := ∀ t, FitsRow limit (s.store.columns (.table t))

variable (naming : Naming) {s : Schema} {limit : Nat} {t : String}

theorem rowsFit_empty : empty.RowsFit limit := fun _ => fitsRow_nil

theorem Columnar.fitsRow_applyEdits : ∀ (es : List Edit) {s : Schema}, s.Columnar →
    FitsRow limit (s.store.columns (.table t)) →
    (∀ e ∈ es, e.typedTable? ≠ some t ∧ ∀ old, e ≠ .renameTable old t) →
      FitsRow limit ((s.applyEdits naming es).store.columns (.table t))
  | [], _, _, hfits, _ => hfits
  | e :: es, s, h, hfits, hes => by
    obtain ⟨htyped, hrename⟩ := hes e List.mem_cons_self
    have h' : (s.applyEdit naming e).Columnar := h.applyEdit naming e
    have hfits' : FitsRow limit ((s.applyEdit naming e).store.columns (.table t)) := by
      rw [h.columnsIn_eq] at hfits
      rw [h'.columnsIn_eq, h.columns_applyEdit]
      exact hfits.of_sublist (Edit.sublist_rowSizes_onColumns htyped hrename)
    exact Columnar.fitsRow_applyEdits es h' hfits' fun f hf => hes f (List.mem_cons_of_mem e hf)

/-- A change keeps every table within the limit, if it does so with the table in which it types
columns and renames no table onto one that has columns. -/
theorem Columnar.rowsFit_replay (h : s.Columnar) {c : Change} (fits : s.RowsFit limit)
    (typed : ∀ t, (∃ e ∈ c.script.edits, e.typedTable? = some t) →
      FitsRow limit ((s.replay naming c).1.store.columns (.table t)))
    (free : c.element = .renameTable → ∀ new, c.text? .newTableName = some new →
      s.store.columns (.table new) = []) : (s.replay naming c).1.RowsFit limit := by
  intro t
  by_cases htyped : ∃ e ∈ c.script.edits, e.typedTable? = some t
  · exact typed t htyped
  have keeps : (∀ old, .renameTable old t ∉ c.script.edits) →
      FitsRow limit ((s.replay naming c).1.store.columns (.table t)) := by
    intro hrename
    refine Columnar.fitsRow_applyEdits naming _ h (fits t) fun e he => ⟨?_, ?_⟩
    · exact fun ht => htyped ⟨e, he, ht⟩
    · rintro old rfl
      exact hrename old he
  by_cases helement : c.element = .renameTable
  · by_cases hrename : ∃ old, .renameTable old t ∈ c.script.edits
    · obtain ⟨old, hmem⟩ := hrename
      have hscript : c.script.edits = [.renameTable old t] ∧ c.text? .newTableName = some t := by
        rw [Change.script_renames (.inl helement), Change.columnScript_renameTable helement] at hmem ⊢
        split at hmem
        · next o n ho hn =>
          obtain ⟨rfl, rfl⟩ : old = o ∧ t = n := by simpa using hmem
          exact ⟨rfl, hn⟩
        · cases hmem
      have hfree := free helement t hscript.2
      have h' : (s.applyEdit naming (.renameTable old t)).Columnar := h.applyEdit naming _
      have hfits := fits old
      rw [h.columnsIn_eq] at hfree hfits
      rw [replay_schema, hscript.1]
      change FitsRow limit ((s.applyEdit naming (.renameTable old t)).store.columns (.table t))
      rw [h'.columnsIn_eq, h.columns_applyEdit]
      exact hfits.of_sublist (Edit.sublist_rowSizes_renameTable hfree)
    · exact keeps fun old hmem => hrename ⟨old, hmem⟩
  · exact keeps fun old => Change.not_renameTable_mem_script helement old t

end Schema

/-! ## Sessions -/

namespace Audit

variable {a : Audit}

/-- No change among those judged renames a table onto one that has columns. -/
def FreeRenames (a : Audit) (judged : List ChangePlace) : Prop :=
  ∀ earlier place, earlier ++ [place] <+: judged → place.change.element = .renameTable →
    ∀ new ∈ place.change.text? .newTableName,
      (a.schemaAfter earlier).store.columns (.table new) = []

theorem freeRenames_iff {judged : List ChangePlace} :
    a.FreeRenames judged ↔ ∀ i, (h : i < judged.length) →
      judged[i].change.element = .renameTable →
        ∀ new ∈ judged[i].change.text? .newTableName,
          (a.schemaAfter (judged.take i)).store.columns (.table new) = [] := by
  constructor
  · intro hfree i h
    refine hfree (judged.take i) judged[i] ?_
    rw [List.take_append_getElem h]
    exact List.take_prefix _ _
  · rintro hfree earlier place ⟨later, rfl⟩
    have h : earlier.length < (earlier ++ [place] ++ later).length := by simp
    simpa using hfree earlier.length h

instance (judged : List ChangePlace) : Decidable (a.FreeRenames judged) :=
  decidable_of_iff _ freeRenames_iff.symm

/-- In a session in which the check of rows finds nothing and no table is renamed onto one that has
columns, every table fits into a row after every change, and so at the end. -/
theorem rowsFit_of_judgeLogs {logs : List Changelog} {s : Session} {found : List Finding}
    (h : a.judgeLogs logs .empty = (s, .ok found))
    (hi : a.policy.ignores ChangeCheck.rowBudget.name = false)
    (hl : a.policy.limits.rowSizeLimit < 2 ^ 63)
    (hq : ∀ f ∈ found, f.check ≠ ChangeCheck.rowBudget.name)
    (hr : a.FreeRenames (a.judged logs)) :
    (∀ earlier, earlier <+: a.judged logs →
        (a.schemaAfter earlier).RowsFit a.policy.limits.rowSizeLimit) ∧
      s.schema.RowsFit a.policy.limits.rowSizeLimit := by
  have hp := passes_judgeLogs h
  have hword : a.policy.limits.rowSizeLimit < Text.maxWord := hl.trans (by decide)
  suffices hall : ∀ earlier, earlier <+: a.judged logs →
      (a.schemaAfter earlier).RowsFit a.policy.limits.rowSizeLimit by
    refine ⟨hall, ?_⟩
    rw [hp.schema_eq]
    exact hall _ (List.prefix_refl _)
  refine schemaAfter_induction Schema.rowsFit_empty fun earlier place hplace ih => ?_
  rw [schemaAfter_append]
  refine (reachable_schemaAfter earlier).columnar.rowsFit_replay _ ih ?_ (hr earlier place hplace)
  rintro t ⟨e, he, ht⟩
  obtain ⟨element, htable⟩ := Change.typedTable?_of_mem_script he ht
  have happ : ChangeCheck.rowBudget.appliesTo place.change.element = true := by
    rcases element with element | element | element | element <;> rw [element] <;> decide
  have htable? : place.change.table? = some t := by
    rcases element with element | element | element | element <;>
      simpa [Change.table?, element, Element.tableAttribute?] using htable
  obtain ⟨memory, hrun⟩ := hp.silent hi hq hplace happ
  rw [← schemaAfter_append]
  exact Check.fitsRow_of_rowBudget hword hrun htable?

/-- A table of a typed and an untyped column that is renamed and then given another typed one. -/
def renamedLog : Changelog := .ofChanges
  [.ofTexts .createTable [(.tableName, "t")] [.ofType "a" "varchar(20)", .ofName "b"],
    .ofTexts .renameTable [(.oldTableName, "t"), (.newTableName, "u")] [],
    .ofTexts .addColumn [(.tableName, "u")] [.ofType "c" "integer"]]

theorem rowsFit_of_renamedLog :
    (plain.judgeLogs [renamedLog] .empty).2 = .ok [] ∧
      plain.policy.ignores ChangeCheck.rowBudget.name = false ∧
      plain.policy.limits.rowSizeLimit < 2 ^ 63 ∧ plain.FreeRenames (plain.judged [renamedLog]) ∧
      (∀ earlier, earlier <+: plain.judged [renamedLog] →
        (plain.schemaAfter earlier).RowsFit plain.policy.limits.rowSizeLimit) ∧
      (plain.judgeLogs [renamedLog] .empty).1.schema.RowsFit plain.policy.limits.rowSizeLimit := by
  have found : (plain.judgeLogs [renamedLog] .empty).2 = .ok [] := by decide +kernel
  have kept : plain.policy.ignores ChangeCheck.rowBudget.name = false := by decide
  have bounded : plain.policy.limits.rowSizeLimit < 2 ^ 63 := by decide
  have free : plain.FreeRenames (plain.judged [renamedLog]) := by decide +kernel
  refine ⟨found, kept, bounded, free, ?_⟩
  exact rowsFit_of_judgeLogs (Step.eq_mk_of_snd found) kept bounded (List.forall_mem_nil _) free

end Audit

end MigrationAudit
