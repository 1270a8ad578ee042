import MigrationAudit.Proofs.Schema.Columns
import MigrationAudit.Proofs.Schema.Scripts

/-!
# Types in a schema

Only a declaration gives a column a type, and a declaration comes with the creation of the column or
with a change of its type (`Change.declaration_cases`).  All other edits leave the types of the
columns as they are, so what holds of the types that declarations give holds of all types in a
schema (`Schema.Columnar.typed_replay`).
-/

namespace MigrationAudit

/-- A base type and the parameter recorded with it. -/
structure Typing where
  base : Option String
  length : Option String
  deriving DecidableEq, Repr

/-- The typing that a declaration gives a column. -/
def Typing.ofDeclaration (declaration : Option String) : Typing :=
  ⟨declaration.map Declaration.base, declaration.map Declaration.parameter⟩

def Column.typing (c : Column) : Typing := ⟨c.dataType, c.length⟩

theorem mem_of_mem_placedIn {c d : Column} : ∀ {cs : List Column}, d ∈ c.placedIn cs →
    d = c ∨ d ∈ cs
  | [], h => .inl (List.mem_singleton.mp h)
  | e :: cs, h => by
    unfold Column.placedIn at h
    split at h
    · exact (List.mem_cons.mp h).imp_right (List.mem_cons_of_mem e)
    · rcases List.mem_cons.mp h with rfl | h
      · exact .inr List.mem_cons_self
      · exact (mem_of_mem_placedIn h).imp_right (List.mem_cons_of_mem e)

/-! ## Edits -/

namespace Edit

/-- The declaration by which an edit types columns. -/
def declaration? : Edit → Option (Option String)
  | .declare _ _ _ declaration => some declaration
  | .setType _ _ declaration => some declaration
  | _ => none

variable {naming : Naming} {drawn : Nat} {e : Edit}

theorem typing_updated_revise (h : ∀ t n d, e ≠ .setType t n d) (c : Column) :
    (Column.updated e.query (e.revise naming drawn) c).typing = c.typing := by
  unfold Column.updated
  split
  · cases e with
    | setType t n d => exact absurd rfl (h t n d)
    | _ => rfl
  · rfl

/-- A column after an edit has been declared by it, or is one from before as the edit revises it. -/
theorem mem_onColumns {c : Column} {cs : List Column} (h : c ∈ e.onColumns naming drawn cs) :
    (∃ t n nullable d, e = .declare t n nullable d ∧ c = declared t n nullable d) ∨
      ∃ b ∈ cs, c = Column.updated e.query (e.revise naming drawn) b := by
  cases e with
  | declare t n nullable d =>
    rcases mem_of_mem_placedIn h with rfl | h
    · exact .inl ⟨t, n, nullable, d, rfl, rfl⟩
    · exact .inr ⟨c, h, (ite_self c).symm⟩
  | dropTable t => exact .inr ⟨c, (List.mem_filter.mp h).1, (ite_self c).symm⟩
  | dropColumn t n => exact .inr ⟨c, (List.mem_filter.mp h).1, (ite_self c).symm⟩
  | _ =>
    obtain ⟨b, hb, rfl⟩ := List.mem_map.mp h
    exact .inr ⟨b, hb, rfl⟩

/-- After an edit a column is typed by its declaration or as some column before. -/
theorem typing_of_mem_onColumns {c : Column} {cs : List Column}
    (h : c ∈ e.onColumns naming drawn cs) :
    (∃ d, e.declaration? = some d ∧ c.typing = .ofDeclaration d) ∨
      ∃ c' ∈ cs, c.typing = c'.typing := by
  rcases mem_onColumns h with ⟨t, n, nullable, d, rfl, rfl⟩ | ⟨b, hb, rfl⟩
  · exact .inl ⟨d, rfl, rfl⟩
  cases e with
  | setType t n d =>
    unfold Column.updated
    split
    · exact .inl ⟨d, rfl, rfl⟩
    · exact .inr ⟨b, hb, rfl⟩
  | _ => exact .inr ⟨b, hb, typing_updated_revise (by simp) b⟩

theorem declaration?_of_constrains (h : e.constrains = true) : e.declaration? = none := by
  cases e <;> first | rfl | simp [constrains] at h

end Edit

/-! ## Changes -/

namespace Change

/-- An edit that types columns belongs to a new column or to a change of type. -/
theorem declaration_cases {c : Change} {e : Edit} {d : Option String} (he : e ∈ c.script.edits)
    (hd : e.declaration? = some d) :
    ((c.element = .createTable ∨ c.element = .addColumn) ∧ ∃ n ∈ c.nested, d = n.text? .type) ∨
      (c.element = .modifyDataType ∨ c.element = .resizeDataType) ∧ d = c.text? .newDataType := by
  rcases mem_script he with he | he
  · cases c.columnEdit_of_mem_columnScript e he with
    | declare element table nested =>
      obtain rfl := Option.some.inj hd
      exact .inl ⟨element, _, (NestedColumn.mem_of_mem_leading nested).1, rfl⟩
    | setType element table column =>
      obtain rfl := Option.some.inj hd
      exact .inr ⟨element, rfl⟩
    | _ => simp [Edit.declaration?] at hd
  · rw [Edit.declaration?_of_constrains (c.constrains_of_mem_constraintScript e he)] at hd
    cases hd

end Change

/-! ## Runs of changes -/

namespace Schema

/-- The typings of all columns have a property. -/
def Typed (P : Typing → Prop) (s : Schema) : Prop := ∀ c ∈ s.columns, P c.typing

variable (naming : Naming) {P : Typing → Prop} {s : Schema}

theorem typed_empty : empty.Typed P := by
  intro c hc
  cases hc

theorem Columnar.typed_applyEdit (h : s.Columnar) (ht : s.Typed P) {e : Edit}
    (he : ∀ d, e.declaration? = some d → P (.ofDeclaration d)) :
    (s.applyEdit naming e).Typed P := by
  intro c hc
  rw [h.columns_applyEdit] at hc
  rcases Edit.typing_of_mem_onColumns hc with ⟨d, hd, hcd⟩ | ⟨c', hc', hcc⟩
  · exact hcd ▸ he d hd
  · exact hcc ▸ ht c' hc'

theorem Columnar.typed_applyEdits : ∀ (es : List Edit) {s : Schema}, s.Columnar → s.Typed P →
    (∀ e ∈ es, ∀ d, e.declaration? = some d → P (.ofDeclaration d)) →
      (s.applyEdits naming es).Typed P
  | [], _, _, ht, _ => ht
  | e :: es, s, h, ht, he => by
    have ht' := h.typed_applyEdit naming ht (he e List.mem_cons_self)
    have ih := Columnar.typed_applyEdits es (h.applyEdit naming e) ht'
      fun f hf => he f (List.mem_cons_of_mem e hf)
    exact ih

theorem Columnar.typed_replay (h : s.Columnar) (ht : s.Typed P) {c : Change}
    (hc : ∀ e ∈ c.script.edits, ∀ d, e.declaration? = some d → P (.ofDeclaration d)) :
    (s.replay naming c).1.Typed P := Columnar.typed_applyEdits naming _ h ht hc

end Schema

end MigrationAudit
