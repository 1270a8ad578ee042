import MigrationAudit.Proofs.Changelog.Plain
import MigrationAudit.Proofs.Schema.Columns
import MigrationAudit.Session.Catalogue

/-!
# Judging changed types

A change of type is judged after it has been replayed, on the column that the store then finds.  It
is the column that the store found before, with the type it had then as its former type and with
the same constraints (`Schema.Columnar.column?_replay_retype`), however often its type has been
changed and however many columns are stored under its identity.  So the judgement is about the
column as it was before the change (`Check.referredColumn_retype_iff`).
-/

namespace MigrationAudit

/-- The declaration gives the base type that the column has, up to the case of ASCII letters. -/
def Column.KeepsBase (c : Column) (declaration : Option String) : Prop :=
  ∃ base text, c.dataType = some base ∧ declaration = some text ∧
    Text.sameAsciiCase (Declaration.base text) base = true

/-- The column after a change of its type. -/
def Column.retyped (declaration : Option String) (c : Column) : Column :=
  { c.setType (declaration.map Declaration.base) with
    length := declaration.map Declaration.parameter }

/-- An update that keeps identities reaches the column that is looked up. -/
theorem find?_map_updated {f : Column → Column} (hf : ∀ c, (f c).identity = c.identity)
    (t n : String) (cs : List Column) :
    (cs.map (Column.updated (.column t n) f)).find? (·.identity.matches (.column t n)) =
      (cs.find? (·.identity.matches (.column t n))).map f := by
  have same : ∀ c, (Column.updated (.column t n) f c).identity = c.identity := by
    intro c
    unfold Column.updated
    split
    · exact hf c
    · rfl
  rw [List.find?_map]
  simp only [Function.comp_def, same]
  refine Option.map_congr fun c hc => ?_
  have hm : c.identity.matches (.column t n) = true := by simpa using List.find?_some hc
  rw [Column.updated, if_pos hm]

/-! ## Replaying -/

namespace Schema

variable {s : Schema} (naming : Naming) {c : Change} {t n : String}

theorem replay_retype (he : c.element = .modifyDataType ∨ c.element = .resizeDataType)
    (ht : c.text? .tableName = some t) (hn : c.text? .columnName = some n) :
    (s.replay naming c).1 = s.applyEdit naming (.setType t n (c.text? .newDataType)) := by
  have hs : c.script = ⟨[.setType t n (c.text? .newDataType)], none⟩ := by
    unfold Change.script Change.columnScript Change.constraintScript
    rcases he with he | he <;> simp only [he, Change.require, ht, hn] <;> rfl
  rw [replay_schema, hs]
  rfl

theorem Columnar.column?_replay_retype (h : s.Columnar)
    (he : c.element = .modifyDataType ∨ c.element = .resizeDataType)
    (ht : c.text? .tableName = some t) (hn : c.text? .columnName = some n) :
    (s.replay naming c).1.store.column? t n =
      (s.store.column? t n).map (Column.retyped (c.text? .newDataType)) := by
  rw [replay_retype naming he ht hn, (h.applyEdit naming _).column?_eq, h.columns_applyEdit,
    h.column?_eq]
  exact find?_map_updated (f := Column.retyped _) (fun _ => rfl) t n s.columns

end Schema

namespace Check

/-! ## Judging -/

theorem sameAsciiCase_comm (s t : String) : Text.sameAsciiCase s t = Text.sameAsciiCase t s :=
  BEq.comm

theorem keepsType_retyped_iff (c : Column) (declaration : Option String) :
    keepsType (c.retyped declaration) declaration = true ↔ c.KeepsBase declaration := by
  unfold keepsType Column.KeepsBase Column.retyped Column.setType
  cases c.dataType with
  | none => simp
  | some base =>
    cases declaration with
    | none => simp
    | some text => simp [sameAsciiCase_comm base]

section Retype

variable {place : ChangePlace} {t n : String}
  (he : place.change.element = .modifyDataType ∨ place.change.element = .resizeDataType)
  (ht : place.change.text? .tableName = some t) (hn : place.change.text? .columnName = some n)

include he ht hn

theorem referredColumn_retype (store : Store) :
    referredColumn store place = .ok (onChange place none ((store.column? t n).bind fun column =>
      causeIf (!column.constraints.isEmpty &&
          !keepsType column (place.change.text? .newDataType))
        (.modifiedWhileReferred t n column.constraints))) := by
  unfold referredColumn modifiedCause?
  rcases he with he | he <;> simp only [he, Change.require, ht, hn] <;> rfl

/-- The judgement of a replayed change of type is about the column as it was before: there is an
issue exactly if there were constraints on it and the change does not keep its base type, and the
issue lists these constraints. -/
theorem referredColumn_retype_iff {naming : Naming} {s : Schema} (hs : s.Reachable naming)
    (policy : Policy) (memory : Memory) :
    ∃ issues, (ChangeCheck.referredColumn.run policy (s.replay naming place.change).1.store place
        memory).1 = .ok issues ∧ issues.length ≤ 1 ∧
      ∀ i, i ∈ issues ↔ ∃ c, s.store.column? t n = some c ∧ c.constraints ≠ [] ∧
        ¬ c.KeepsBase (place.change.text? .newDataType) ∧
          i = Issue.ofChange place none (.modifiedWhileReferred t n c.constraints) := by
  have found := hs.columnar.column?_replay_retype naming he ht hn
  refine ⟨_, referredColumn_retype he ht hn _, ?_, fun i => ?_⟩
  · rw [onChange, List.length_map]
    exact Option.length_toList_le
  · rw [found]
    cases s.store.column? t n with
    | none => simp [onChange]
    | some c =>
      have keeps := keepsType_retyped_iff c (place.change.text? .newDataType)
      have same : (c.retyped (place.change.text? .newDataType)).constraints = c.constraints := rfl
      by_cases hk : c.constraints = []
      · simp [onChange, causeIf, same, hk]
      · by_cases hb : c.KeepsBase (place.change.text? .newDataType)
        · simp [onChange, causeIf, same, hk, keeps.mpr hb, hb]
        · simp [onChange, causeIf, same, hk, mt keeps.mp hb, hb]

end Retype

/-- A key that was added after the column forbids to change the type that was changed since. -/
theorem referredColumn_retype_of_key :
    let s := Schema.empty.replayAll (fun _ => "")
      [.ofTexts .createTable [(.tableName, "t")] [.ofType "a" "VARCHAR(10)"],
        .ofTexts .addPrimaryKey
          [(.tableName, "t"), (.columnNames, "a"), (.constraintName, "pk")] [],
        .ofTexts .resizeDataType
          [(.tableName, "t"), (.columnName, "a"), (.newDataType, "varchar(20)")] []]
    let place := ChangePlace.alone (.ofTexts .modifyDataType
      [(.tableName, "t"), (.columnName, "a"), (.newDataType, "INTEGER")] [])
    s.Reachable (fun _ => "") ∧ place.change.element = .modifyDataType ∧
      place.change.text? .tableName = some "t" ∧ place.change.text? .columnName = some "a" ∧
        ∃ issues, (ChangeCheck.referredColumn.run .plain
            (s.replay (fun _ => "") place.change).1.store place .empty).1 = .ok issues ∧
          Issue.ofChange place none
            (.modifiedWhileReferred "t" "a" [⟨.primaryKey, .declared "pk"⟩]) ∈ issues := by
  intro s place
  have hs : s.Reachable (fun _ => "") := ⟨_, rfl⟩
  have he : place.change.element = .modifyDataType := rfl
  obtain ⟨issues, found, -, listed⟩ :=
    referredColumn_retype_iff (.inl he) rfl rfl hs .plain .empty
  have before : s.store.column? "t" "a" = some ⟨"t", "a", true, some "varchar", some "VARCHAR",
      some "20", [⟨.primaryKey, .declared "pk"⟩]⟩ := by decide +kernel
  have other : Text.sameAsciiCase (Declaration.base "INTEGER") "varchar" = false := by
    decide +kernel
  refine ⟨hs, he, rfl, rfl, issues, found, (listed _).mpr ⟨_, before, by simp, ?_, rfl⟩⟩
  rintro ⟨base, text, hb, ht, same⟩
  obtain rfl := Option.some.inj hb
  obtain rfl : "INTEGER" = text := Option.some.inj ht
  simp [other] at same

end Check

end MigrationAudit
