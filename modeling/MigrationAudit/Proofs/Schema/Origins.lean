import MigrationAudit.Proofs.Schema.Distinct
import MigrationAudit.Proofs.Schema.Typing

/-!
# Where columns come from

A column after a change has been declared by the change, has been given its type by it, or was there
before with the same type, under the same identity or the one that the change has renamed
(`Change.Origin`).  So what is to be shown of all columns after a run of changes is shown origin by
origin (`Schema.Columnar.origin_of_mem_replay`).
-/

namespace MigrationAudit

/-! ## Edits -/

namespace Edit

/-- The edit gives a column with this table and name the type of a declaration. -/
inductive Types : Edit → String × String → Option String → Prop
  | declare (t n : String) (nullable : Bool) (d : Option String) :
    Types (.declare t n nullable d) (t, n) d
  | setType (t n : String) (d : Option String) : Types (.setType t n d) (t, n) d

/-- The table and the name under which the edit leaves a column with these. -/
def renamed : Edit → String × String → String × String
  | .renameTable old new, p => tableRenamed old new p
  | .renameColumn t old new, p => columnRenamed t old new p
  | _, p => p

theorem renamed_of_renames {e : Edit} (he : e.renames = false) (p : String × String) :
    e.renamed p = p := by
  cases e <;> first | rfl | simp [renames] at he

variable {naming : Naming} {drawn : Nat} {e : Edit} {c : Column} {cs : List Column}

theorem pair_updated_revise (naming : Naming) (drawn : Nat) (e : Edit) (b : Column) :
    (Column.updated e.query (e.revise naming drawn) b).pair = e.renamed b.pair := by
  cases e with
  | renameTable old new => exact pair_renamedTable old new b
  | renameColumn t old new => exact pair_renamedColumn t old new b
  | _ =>
    unfold Column.updated
    split <;> rfl

theorem origin_of_mem_onColumns (h : c ∈ e.onColumns naming drawn cs) :
    (∃ d, e.Types c.pair d ∧ c.typing = .ofDeclaration d) ∨
      ∃ b ∈ cs, c.pair = e.renamed b.pair ∧ c.typing = b.typing := by
  rcases mem_onColumns h with ⟨t, n, nullable, d, rfl, rfl⟩ | ⟨b, hb, rfl⟩
  · exact .inl ⟨d, .declare t n nullable d, rfl⟩
  have kept := pair_updated_revise naming drawn e b
  cases e with
  | setType t n d =>
    unfold Column.updated at kept ⊢
    split
    · next hm =>
      obtain ⟨rfl, rfl⟩ := identity_matches_column.mp hm
      exact .inl ⟨d, .setType _ _ d, rfl⟩
    · exact .inr ⟨b, hb, rfl, rfl⟩
  | _ => exact .inr ⟨b, hb, kept, typing_updated_revise (by simp) b⟩

end Edit

/-- Edits that do not rename leave a column with its identity, and with its type or one of theirs. -/
theorem Schema.Columnar.origin_of_mem_applyEdits (naming : Naming) : ∀ {es : List Edit}
    {s : Schema}, s.Columnar → (∀ e ∈ es, e.renames = false) →
      ∀ c ∈ (s.applyEdits naming es).columns,
        (∃ e ∈ es, ∃ d, e.Types c.pair d ∧ c.typing = .ofDeclaration d) ∨
          ∃ b ∈ s.columns, c.pair = b.pair ∧ c.typing = b.typing
  | [], _, _, _, c, hc => .inr ⟨c, hc, rfl, rfl⟩
  | e :: es, s, h, hes, c, hc => by
    have ih := origin_of_mem_applyEdits naming (h.applyEdit naming e)
      (fun f hf => hes f (List.mem_cons_of_mem e hf)) c hc
    rcases ih with ⟨f, hf, types⟩ | ⟨b, hb, hpair, htyping⟩
    · exact .inl ⟨f, List.mem_cons_of_mem e hf, types⟩
    rw [h.columns_applyEdit] at hb
    rcases Edit.origin_of_mem_onColumns hb with ⟨d, hd⟩ | ⟨b', hb', hbb⟩
    · exact .inl ⟨e, List.mem_cons_self, d, hpair ▸ hd.1, htyping.trans hd.2⟩
    · rw [Edit.renamed_of_renames (hes e List.mem_cons_self)] at hbb
      exact .inr ⟨b', hb', hpair.trans hbb.1, htyping.trans hbb.2⟩

/-! ## Changes -/

namespace Change

/-- The table and the name under which the change leaves a column with these. -/
def renamed (c : Change) (p : String × String) : String × String :=
  match c.element with
  | .renameTable =>
    match c.text? .oldTableName, c.text? .newTableName with
    | some old, some new => tableRenamed old new p
    | _, _ => p
  | .renameColumn =>
    match c.text? .tableName, c.text? .oldColumnName, c.text? .newColumnName with
    | some t, some old, some new => columnRenamed t old new p
    | _, _, _ => p
  | _ => p

/-- The table and the name under which several changes leave a column with these. -/
def renamedBy (changes : List Change) (p : String × String) : String × String :=
  changes.foldl (fun p c => c.renamed p) p

theorem renamedBy_append (earlier later : List Change) (p : String × String) :
    renamedBy (earlier ++ later) p = renamedBy later (renamedBy earlier p) := by
  simp [renamedBy]

/-- Where a column after a change comes from, given the columns before it. -/
inductive Origin (change : Change) (before : List Column) (c : Column) : Prop
  | declared {n : NestedColumn}
    (element : change.element = .createTable ∨ change.element = .addColumn)
    (table : change.text? .tableName = some c.table) (nested : n ∈ change.nested)
    (name : n.name? = some c.name) (typing : c.typing = .ofDeclaration (n.text? .type))
  | retyped (element : change.element = .modifyDataType ∨ change.element = .resizeDataType)
    (table : change.text? .tableName = some c.table)
    (column : change.text? .columnName = some c.name)
    (typing : c.typing = .ofDeclaration (change.text? .newDataType))
  | kept {b : Column} (mem : b ∈ before) (pair : c.pair = change.renamed b.pair)
    (typing : c.typing = b.typing)

theorem origin_of_types {change : Change} {e : Edit} (he : e ∈ change.script.edits) {c : Column}
    {d : Option String} (hd : e.Types c.pair d) (hc : c.typing = .ofDeclaration d)
    (before : List Column) : change.Origin before c := by
  generalize hp : c.pair = p at hd
  rcases mem_script he with he | he
  · cases change.columnEdit_of_mem_columnScript e he with
    | declare element table nested =>
      cases hd
      obtain ⟨rfl, hname⟩ := Prod.mk.inj hp
      obtain ⟨hn, name⟩ := NestedColumn.mem_of_mem_leading nested
      exact .declared element table hn (hname ▸ name) hc
    | setType element table column =>
      cases hd
      obtain ⟨rfl, rfl⟩ := Prod.mk.inj hp
      exact .retyped element table column hc
    | _ => cases hd
  · have hk := change.constrains_of_mem_constraintScript e he
    cases hd <;> simp [Edit.constrains] at hk

theorem renames_of_mem_script {change : Change} (ht : change.element ≠ .renameTable)
    (hc : change.element ≠ .renameColumn) : ∀ e ∈ change.script.edits, e.renames = false := by
  intro e he
  rcases mem_script he with he | he
  · exact renames_of_mem_columnScript ht hc e he
  · have hk := change.constrains_of_mem_constraintScript e he
    cases e <;> first | rfl | simp [Edit.constrains] at hk

theorem renamed_of_ne {change : Change} (ht : change.element ≠ .renameTable)
    (hc : change.element ≠ .renameColumn) (p : String × String) : change.renamed p = p := by
  unfold renamed
  split
  · next h => exact absurd h ht
  · next h => exact absurd h hc
  · rfl

/-- A change either renames nothing or amounts to one rename. -/
theorem renames_cases (c : Change) :
    ((∀ e ∈ c.script.edits, e.renames = false) ∧ ∀ p, c.renamed p = p) ∨
      ∃ e, c.script.edits = [e] ∧ e.renames = true ∧ ∀ p, c.renamed p = e.renamed p := by
  by_cases ht : c.element = .renameTable
  · have hes := (script_renames (.inl ht)).trans (columnScript_renameTable ht)
    cases ho : c.text? .oldTableName <;> cases hn : c.text? .newTableName <;>
      simp only [ho, hn] at hes
    case some.some => exact .inr ⟨_, hes, rfl, fun p => by simp only [renamed, ht, ho, hn]; rfl⟩
    -- a rename that lacks a name does nothing
    all_goals exact .inl ⟨by simp [hes], fun p => by simp only [renamed, ht, ho, hn]⟩
  by_cases hc : c.element = .renameColumn
  · have hes := (script_renames (.inr hc)).trans (columnScript_renameColumn hc)
    cases htable : c.text? .tableName <;> cases ho : c.text? .oldColumnName <;>
      cases hn : c.text? .newColumnName <;> simp only [htable, ho, hn] at hes
    case some.some.some =>
      exact .inr ⟨_, hes, rfl, fun p => by simp only [renamed, hc, htable, ho, hn]; rfl⟩
    all_goals exact .inl ⟨by simp [hes], fun p => by simp only [renamed, hc, htable, ho, hn]⟩
  exact .inl ⟨renames_of_mem_script ht hc, renamed_of_ne ht hc⟩

end Change

/-- Every column after a change has one of the three origins. -/
theorem Schema.Columnar.origin_of_mem_replay {s : Schema} (naming : Naming) (h : s.Columnar)
    (change : Change) {c : Column} (hc : c ∈ (s.replay naming change).1.columns) :
    change.Origin s.columns c := by
  rw [replay_schema] at hc
  rcases change.renames_cases with ⟨hno, hp⟩ | ⟨e, hes, he, hp⟩
  · rcases origin_of_mem_applyEdits naming h hno c hc with
      ⟨e, he, d, hd, htyping⟩ | ⟨b, hb, hpair, htyping⟩
    · exact Change.origin_of_types he hd htyping s.columns
    · exact .kept hb (hpair.trans (hp _).symm) htyping
  · rw [hes] at hc
    have hc : c ∈ (s.applyEdit naming e).columns := hc
    rw [h.columns_applyEdit] at hc
    rcases Edit.origin_of_mem_onColumns hc with ⟨d, types, -⟩ | ⟨b, hb, hpair, htyping⟩
    · cases types <;> simp [Edit.renames] at he
    · exact .kept hb (hpair.trans (hp _).symm) htyping

end MigrationAudit
