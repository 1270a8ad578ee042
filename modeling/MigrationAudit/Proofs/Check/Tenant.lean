import MigrationAudit.Check.NotNull
import MigrationAudit.Proofs.Changelog.Plain
import MigrationAudit.Proofs.Schema.Nullability

/-!
# The tenant column at the end of a change set

The check of tenant columns reads the changes of a set one by one: it wants the first declaration
of the column not null, or a later change that makes it so.  What the column is at the end of the
set is up to the last change that decides about it.  So where the check finds nothing, the column
still ends up nullable exactly if this last change drops its constraint, declares it a second time,
or renames a nullable column to it (`Check.tenant_not_null_iff`).
-/

namespace MigrationAudit

/-- The last of the elements of which something holds. -/
theorem exists_last_of_exists_mem {α : Type} {p : α → Prop} : ∀ {l : List α}, (∃ x ∈ l, p x) →
    ∃ before x after, l = before ++ x :: after ∧ p x ∧ ∀ y ∈ after, ¬ p y
  | [], h => by simp at h
  | x :: l, h => by
    by_cases hl : ∃ y ∈ l, p y
    · obtain ⟨before, y, after, rfl, hy, hafter⟩ := exists_last_of_exists_mem hl
      exact ⟨x :: before, y, after, rfl, hy, hafter⟩
    · obtain ⟨y, hy, hp⟩ := h
      rcases List.mem_cons.mp hy with rfl | hy
      · exact ⟨[], y, l, rfl, hp, fun z hz hpz => hl ⟨z, hz, hpz⟩⟩
      · exact absurd ⟨y, hy, hp⟩ hl

namespace SetPlace

theorem mem_placesAfter (place : SetPlace) (c : Change) (after : List Change) :
    ∀ before earlier : List Change, (⟨place, earlier ++ before, c, after⟩ : ChangePlace) ∈
      place.placesAfter earlier (before ++ c :: after)
  | [], earlier => by
    rw [List.append_nil]
    exact List.mem_cons_self
  | b :: before, earlier => by
    have ih := place.mem_placesAfter c after before (earlier ++ [b])
    rw [List.append_assoc, List.singleton_append] at ih
    exact List.mem_cons_of_mem _ ih

/-- Every change of a set has its place in it. -/
theorem mem_places {place : SetPlace} {before after : List Change} {c : Change}
    (h : place.changeSet.changes = before ++ c :: after) :
    (⟨place, before, c, after⟩ : ChangePlace) ∈ place.places := by
  unfold places
  rw [h]
  exact place.mem_placesAfter c after before []

end SetPlace

namespace Check

variable {t n : String} {c : Change}

theorem decides_of_deniesNullTenant (h : deniesNullTenant (some t) c = true) :
    c.Decides t tenantColumn := by
  simp only [deniesNullTenant, Bool.and_eq_true, beq_iff_eq] at h
  obtain ⟨⟨element, column⟩, table⟩ := h
  refine ⟨.setNullable t tenantColumn false, ?_, rfl⟩
  rw [Change.columnScript_addNotNullConstraint element table column]
  exact List.mem_cons_self

theorem creates_iff {e : Element} :
    createsColumns e = true ↔ e = .createTable ∨ e = .addColumn := by
  cases e <;> simp [createsColumns]

theorem decides_of_declaresColumn (hok : c.script.failure = none)
    (h : declaresColumn (some t) (some n) c = true) : c.Decides t n := by
  simp only [declaresColumn, Bool.and_eq_true, beq_iff_eq, List.any_eq_true] at h
  obtain ⟨⟨element, table⟩, x, hx, -, hname⟩ := h
  have element := creates_iff.mp element
  rw [Change.columns_of_declares element] at hx
  have hleading : (n, x) ∈ NestedColumn.leading c.nested :=
    NestedColumn.mem_leading hname (Change.named_of_declares element table hok) hx
  refine ⟨.declare t n x.nullable (x.text? .type), ?_, rfl⟩
  rw [Change.edits_of_declares element table]
  exact List.mem_map_of_mem (f := fun p : String × NestedColumn =>
    Edit.declare t p.1 p.2.nullable (p.2.text? .type)) hleading

/-- A silent check of a declared tenant column means that the first declaration is not null or that
a later change denies null. -/
theorem not_nullable_or_denied {place : ChangePlace} (h : nullableTenant place = [])
    (hc : createsColumns place.change.element = true) {x : NestedColumn}
    (hx : place.change.columns.find? (·.name? == some tenantColumn) = some x) :
    x.nullable = false ∨
      ∃ e ∈ place.later, deniesNullTenant (place.change.text? .tableName) e = true := by
  unfold nullableTenant at h
  rw [if_pos hc, hx] at h
  by_contra hnot
  simp only [not_or, Bool.not_eq_false] at hnot
  have hlater : place.later.any (deniesNullTenant (place.change.text? .tableName)) = false := by
    rw [← Bool.not_eq_true, List.any_eq_true]
    exact hnot.2
  simp [hnot.1, hlater] at h

variable {naming : Naming} {s : Schema} {place : SetPlace}

/-- Where the check finds nothing with a change set that declares a tenant column, the column is not
null at the end of the set, if it is known then, exactly if the last change that decides about it
does not leave it nullable. -/
theorem tenant_not_null_iff (hs : s.Reachable naming)
    (hok : ∀ c ∈ place.changeSet.changes, c.script.failure = none)
    (hq : ∀ p ∈ place.places, nullableTenant p = [])
    (hd : ∃ c ∈ place.changeSet.changes, declaresColumn (some t) (some tenantColumn) c = true) :
    (∀ col, (s.replayAll naming place.changeSet.changes).store.column? t tenantColumn = some col →
        col.nullable = false) ↔
      ∀ before c after, place.changeSet.changes = before ++ c :: after →
        c.Decides t tenantColumn → (∀ d ∈ after, ¬ d.Decides t tenantColumn) →
          ¬ c.LeavesNullable (s.replayAll naming before) t tenantColumn := by
  -- what the last change that decides leaves is what the column is at the end
  have last : ∀ before c after, place.changeSet.changes = before ++ c :: after →
      c.Decides t tenantColumn → (∀ d ∈ after, ¬ d.Decides t tenantColumn) →
        ((s.replayAll naming place.changeSet.changes).nullable? t tenantColumn = some true ↔
          c.LeavesNullable (s.replayAll naming before) t tenantColumn) := by
    intro before c after hsplit hc hafter
    have hbefore := hs.columnar.replayAll naming before
    have hmid := hbefore.replay naming c
    have hreplay : s.replayAll naming place.changeSet.changes =
        ((s.replayAll naming before).replay naming c).1.replayAll naming after := by
      rw [hsplit, Schema.replayAll_append]
      rfl
    rw [hreplay, Schema.Columnar.nullable?_replayAll_of_not_decides naming hmid hafter]
    have hcok : c.script.failure = none := hok c (by simp [hsplit])
    refine hbefore.nullable?_replay_iff naming hcok hc fun helement ht x hx => ?_
    have hcreates := creates_iff.mpr helement
    rcases not_nullable_or_denied (hq _ (SetPlace.mem_places hsplit)) hcreates hx with hnot | hden
    · exact hnot
    · obtain ⟨d, hd, hden⟩ := hden
      rw [ht] at hden
      exact absurd (decides_of_deniesNullTenant hden) (hafter d hd)
  have hend : (∀ col, (s.replayAll naming place.changeSet.changes).store.column? t tenantColumn =
      some col → col.nullable = false) ↔
        (s.replayAll naming place.changeSet.changes).nullable? t tenantColumn ≠ some true := by
    simp [Schema.nullable?]
  rw [hend]
  constructor
  · intro hne before c after hsplit hc hafter hleaves
    exact hne ((last before c after hsplit hc hafter).mpr hleaves)
  · intro hno hnull
    obtain ⟨c, hc, hdeclares⟩ := hd
    have hdecides : ∃ c ∈ place.changeSet.changes, c.Decides t tenantColumn :=
      ⟨c, hc, decides_of_declaresColumn (hok c hc) hdeclares⟩
    obtain ⟨before, c, after, hsplit, hc, hafter⟩ := exists_last_of_exists_mem hdecides
    exact hno before c after hsplit hc hafter ((last before c after hsplit hc hafter).mp hnull)

/-- A tenant column that is made not null after its declaration ends up not null. -/
theorem tenant_not_null_of_denied_later :
    let place := SetPlace.ofChanges
      [.ofTexts .createTable [(.tableName, "t")] [.ofName tenantColumn],
        .ofTexts .addNotNullConstraint [(.tableName, "t"), (.columnName, tenantColumn)] []]
    (∀ c ∈ place.changeSet.changes, c.script.failure = none) ∧
      (∀ p ∈ place.places, nullableTenant p = []) ∧
      (∃ c ∈ place.changeSet.changes, declaresColumn (some "t") (some tenantColumn) c = true) ∧
      ∀ col, (Schema.empty.replayAll (fun _ => "") place.changeSet.changes).store.column? "t"
        tenantColumn = some col → col.nullable = false := by
  intro place
  have hs : Schema.empty.Reachable (fun _ => "") := ⟨[], rfl⟩
  have hok : ∀ c ∈ place.changeSet.changes, c.script.failure = none := by decide
  have hq : ∀ p ∈ place.places, nullableTenant p = [] := by decide
  have hd : ∃ c ∈ place.changeSet.changes,
      declaresColumn (some "t") (some tenantColumn) c = true := by decide
  refine ⟨hok, hq, hd, (tenant_not_null_iff hs hok hq hd).mpr ?_⟩
  rintro (_ | ⟨b, _ | ⟨b', before⟩⟩) c after hsplit hc hafter
  · obtain ⟨-, rfl⟩ := List.cons.inj hsplit
    have hdenied : deniesNullTenant (some "t") (.ofTexts .addNotNullConstraint
      [(.tableName, "t"), (.columnName, tenantColumn)] []) = true := by decide
    exact absurd (decides_of_deniesNullTenant hdenied) (hafter _ List.mem_cons_self)
  · obtain ⟨rfl, -⟩ := List.cons.inj (List.cons.inj hsplit).2
    exact id
  · have hlength := congrArg List.length hsplit
    simp [place, SetPlace.ofChanges, ChangeSet.ofChanges] at hlength

/-- A declared constraint that is dropped again leaves the tenant column nullable, and nothing is
found. -/
theorem tenant_nullable_after_constraint_dropped :
    let place := SetPlace.ofChanges
      [.ofTexts .createTable [(.tableName, "t")] [.ofNotNull tenantColumn],
        .ofTexts .dropNotNullConstraint [(.tableName, "t"), (.columnName, tenantColumn)] []]
    Schema.empty.Reachable (fun _ => "") ∧
      (∀ c ∈ place.changeSet.changes, c.script.failure = none) ∧
      (∀ p ∈ place.places, nullableTenant p = []) ∧
      (∃ c ∈ place.changeSet.changes, declaresColumn (some "t") (some tenantColumn) c = true) ∧
      ∃ col, (Schema.empty.replayAll (fun _ => "") place.changeSet.changes).store.column? "t"
        tenantColumn = some col ∧ col.nullable = true := by
  intro place
  exact ⟨⟨[], rfl⟩, by decide, by decide, by decide, _, rfl, rfl⟩

end Check

end MigrationAudit
