import MigrationAudit.Proofs.Check.Tenant

/-!
# The tenant column and its constraint in one change set

One check looks from the declaration of a tenant column for a later constraint, another one looks
from the constraint for an earlier declaration.  Where a change set has one of each, both look for
the same thing, whether the declaration comes before the constraint.  If it does, neither check
finds anything, and if it does not, both do (`Check.tenant_scans_agree`).
-/

namespace MigrationAudit

/-! ## Positions of changes -/

namespace Change

/-- The nested columns by which the change declares a column of a table. -/
def declarations (c : Change) (table : Option String) (column : String) : List NestedColumn :=
  if (c.element = .createTable ∨ c.element = .addColumn) ∧ c.text? .tableName = table then
    c.columns.filter (·.name? = some column)
  else []

/-- The change makes a column of a table not null. -/
def Denies (c : Change) (table : Option String) (column : String) : Prop :=
  c.element = .addNotNullConstraint ∧ c.text? .tableName = table ∧
    c.text? .columnName = some column

instance (c : Change) (table : Option String) (column : String) :
    Decidable (c.Denies table column) :=
  inferInstanceAs (Decidable (_ ∧ _))

theorem mem_declarations {c : Change} {table : Option String} {column : String}
    {x : NestedColumn} : x ∈ c.declarations table column ↔
      (c.element = .createTable ∨ c.element = .addColumn) ∧ c.text? .tableName = table ∧
        x ∈ c.columns ∧ x.name? = some column := by
  unfold declarations
  split
  · next h => simp [h]
  · next h => simp only [List.not_mem_nil, false_iff]; tauto

end Change

/-- Every declaration of a column of a table among the changes, at the position of its change. -/
def declarationsIn (changes : List Change) (table : Option String) (column : String) :
    List (Nat × NestedColumn) :=
  changes.zipIdx.flatMap fun p => (p.1.declarations table column).map fun x => (p.2, x)

/-- Every change that makes a column of a table not null, at its position. -/
def denialsIn (changes : List Change) (table : Option String) (column : String) :
    List (Nat × Change) :=
  (changes.zipIdx.filter fun p => p.1.Denies table column).map Prod.swap

section Positions

variable {changes : List Change} {table : Option String} {column : String}

theorem mem_declarationsIn {i : Nat} {x : NestedColumn} :
    (i, x) ∈ declarationsIn changes table column ↔
      ∃ c, changes[i]? = some c ∧ x ∈ c.declarations table column := by
  simp [declarationsIn, List.mem_zipIdx_iff_getElem?]

theorem mem_denialsIn {j : Nat} {d : Change} :
    (j, d) ∈ denialsIn changes table column ↔
      changes[j]? = some d ∧ d.Denies table column := by
  simp [denialsIn, List.mem_zipIdx_iff_getElem?]

theorem any_take_iff {α : Type} {p : α → Bool} {l : List α} {j : Nat} :
    (l.take j).any p = true ↔ ∃ i < j, ∃ x, l[i]? = some x ∧ p x = true := by
  simp only [List.any_eq_true, List.mem_iff_getElem?, List.getElem?_take]
  constructor
  · rintro ⟨x, ⟨i, hx⟩, hp⟩
    by_cases hi : i < j
    · exact ⟨i, hi, x, by rwa [if_pos hi] at hx, hp⟩
    · rw [if_neg hi] at hx
      cases hx
  · rintro ⟨i, hi, x, hx, hp⟩
    exact ⟨x, ⟨i, by rwa [if_pos hi]⟩, hp⟩

theorem any_drop_iff {α : Type} {p : α → Bool} {l : List α} {i : Nat} :
    (l.drop (i + 1)).any p = true ↔ ∃ j, i < j ∧ ∃ x, l[j]? = some x ∧ p x = true := by
  simp only [List.any_eq_true, List.mem_iff_getElem?, List.getElem?_drop]
  constructor
  · rintro ⟨x, ⟨k, hx⟩, hp⟩
    exact ⟨i + 1 + k, by omega, x, hx, hp⟩
  · rintro ⟨j, hj, x, hx, hp⟩
    obtain ⟨k, rfl⟩ := Nat.exists_eq_add_of_le (Nat.succ_le_of_lt hj)
    exact ⟨x, ⟨k, hx⟩, hp⟩

end Positions

namespace SetPlace

theorem getElem?_placesAfter (place : SetPlace) {c : Change} :
    ∀ {changes : List Change} {i : Nat} (earlier : List Change), changes[i]? = some c →
      (place.placesAfter earlier changes)[i]? =
        some ⟨place, earlier ++ changes.take i, c, changes.drop (i + 1)⟩
  | [], _, _, h => by cases h
  | d :: changes, 0, earlier, h => by
    obtain rfl := Option.some.inj h
    rw [List.take_zero, List.append_nil]
    rfl
  | d :: changes, i + 1, earlier, h => by
    have hc : changes[i]? = some c := h
    have ih := place.getElem?_placesAfter (earlier ++ [d]) hc
    rw [placesAfter, List.getElem?_cons_succ, ih, List.append_assoc]
    rfl

/-- The place of a change at a position has the changes before and after this position around it. -/
theorem getElem?_places {place : SetPlace} {i : Nat} {c : Change}
    (h : place.changeSet.changes[i]? = some c) :
    place.places[i]? = some ⟨place, place.changeSet.changes.take i, c,
      place.changeSet.changes.drop (i + 1)⟩ :=
  place.getElem?_placesAfter [] h

end SetPlace

/-! ## The two checks -/

namespace Check

variable {t : Option String} {n : String} {c : Change}

theorem declaresColumn_iff :
    declaresColumn t (some n) c = true ↔ ∃ x, x ∈ c.declarations t n := by
  simp only [declaresColumn, Bool.and_eq_true, beq_iff_eq, List.any_eq_true, creates_iff,
    Change.mem_declarations, and_assoc, exists_and_left]
  refine and_congr_right fun _ => and_congr_right fun _ => exists_congr fun x =>
    and_congr_right fun _ => and_iff_right_of_imp fun h => ?_
  rw [h]
  rfl

theorem deniesNullTenant_iff : deniesNullTenant t c = true ↔ c.Denies t tenantColumn := by
  simp only [deniesNullTenant, Change.Denies, Bool.and_eq_true, beq_iff_eq, and_assoc]
  exact and_congr_right fun _ => and_comm

variable {changes : List Change} {i j : Nat} {x : NestedColumn} {d : Change}

/-- Of the only declaration of a column it is said whether it comes before a position. -/
theorem declared_before_iff (h : declarationsIn changes t n = [(i, x)]) :
    (changes.take j).any (declaresColumn t (some n)) = true ↔ i < j := by
  have only : ∀ k y, (∃ c, changes[k]? = some c ∧ y ∈ c.declarations t n) ↔ (k, y) = (i, x) := by
    intro k y
    rw [← mem_declarationsIn, h, List.mem_singleton]
  rw [any_take_iff]
  constructor
  · rintro ⟨k, hk, c, hc, hdeclares⟩
    obtain ⟨y, hy⟩ := declaresColumn_iff.mp hdeclares
    obtain ⟨rfl, -⟩ := Prod.mk.inj ((only k y).mp ⟨c, hc, hy⟩)
    exact hk
  · intro hij
    obtain ⟨c, hc, hx⟩ := (only i x).mpr rfl
    exact ⟨i, hij, c, hc, declaresColumn_iff.mpr ⟨x, hx⟩⟩

/-- Of the only change that denies null it is said whether it comes after a position. -/
theorem denied_after_iff (h : denialsIn changes t tenantColumn = [(j, d)]) :
    (changes.drop (i + 1)).any (deniesNullTenant t) = true ↔ i < j := by
  have only : ∀ k e, (changes[k]? = some e ∧ e.Denies t tenantColumn) ↔ (k, e) = (j, d) := by
    intro k e
    rw [← mem_denialsIn, h, List.mem_singleton]
  rw [any_drop_iff]
  constructor
  · rintro ⟨k, hk, e, he, hdenies⟩
    obtain ⟨rfl, -⟩ := Prod.mk.inj ((only k e).mp ⟨he, deniesNullTenant_iff.mp hdenies⟩)
    exact hk
  · intro hij
    obtain ⟨hd, hdenies⟩ := (only j d).mpr rfl
    exact ⟨j, hij, d, hd, deniesNullTenant_iff.mpr hdenies⟩

theorem nullable_iff :
    x.nullable = true ↔ x.constraints?.bind (·.flag? .nullable) ≠ some false := by
  unfold NestedColumn.nullable
  rcases x.constraints?.bind (·.flag? .nullable) with _ | _ | _ <;> simp

theorem find?_tenant_of_declarations (hx : x ∈ c.declarations t tenantColumn)
    (honly : ∀ y ∈ c.declarations t tenantColumn, y = x) :
    c.columns.find? (·.name? == some tenantColumn) = some x := by
  obtain ⟨element, table, hmem, hname⟩ := Change.mem_declarations.mp hx
  have named : (c.columns.find? (·.name? == some tenantColumn)).isSome :=
    List.find?_isSome.mpr ⟨x, hmem, beq_iff_eq.mpr hname⟩
  obtain ⟨y, hy⟩ := Option.isSome_iff_exists.mp named
  have declared : y ∈ c.declarations t tenantColumn := Change.mem_declarations.mpr
    ⟨element, table, List.mem_of_find?_eq_some hy, by simpa using List.find?_some hy⟩
  rw [hy, honly y declared]

theorem nullableTenant_of_declarations (place : ChangePlace)
    (hx : x ∈ place.change.declarations t tenantColumn)
    (honly : ∀ y ∈ place.change.declarations t tenantColumn, y = x)
    (hnullable : x.nullable = true) :
    nullableTenant place = if place.later.any (deniesNullTenant t) then []
      else [columnIssue place none .nullableTenant] := by
  obtain ⟨element, table, -⟩ := Change.mem_declarations.mp hx
  have hfind := find?_tenant_of_declarations hx honly
  simp only [nullableTenant, if_pos (creates_iff.mpr element), hfind, hnullable, table,
    Bool.true_and]
  cases place.later.any (deniesNullTenant t) <;> rfl

theorem notNullWithoutDefault_of_denies (place : ChangePlace) (h : place.change.Denies t n)
    (hdefault : place.change.value? .defaultNullValue = none) :
    notNullWithoutDefault place = if place.earlier.any (declaresColumn t (some n)) then []
      else [Issue.ofChange place (some "defaultNullValue") .notNullWithoutDefault] := by
  obtain ⟨element, table, column⟩ := h
  simp only [notNullWithoutDefault, element, table, column, hdefault]
  cases place.earlier.any (declaresColumn t (some n)) <;> rfl

/-- Where a change set declares a nullable tenant column once and denies it null once without a
default value, both checks tell by the order of the two: nothing is found if the declaration comes
first, and else one issue is found with it and one with the constraint. -/
theorem tenant_scans_agree {place : SetPlace}
    (hdeclared : declarationsIn place.changeSet.changes t tenantColumn = [(i, x)])
    (hnullable : x.constraints?.bind (·.flag? .nullable) ≠ some false)
    (hdenied : denialsIn place.changeSet.changes t tenantColumn = [(j, d)])
    (hdefault : d.value? .defaultNullValue = none) :
    ∃ p q, place.places[i]? = some p ∧ place.places[j]? = some q ∧ i ≠ j ∧
      (i < j → nullableTenant p = [] ∧ notNullWithoutDefault q = []) ∧
      (j < i → nullableTenant p = [columnIssue p none .nullableTenant] ∧
        notNullWithoutDefault q =
          [Issue.ofChange q (some "defaultNullValue") .notNullWithoutDefault]) := by
  have hmem : (i, x) ∈ declarationsIn place.changeSet.changes t tenantColumn :=
    hdeclared ▸ List.mem_singleton_self _
  obtain ⟨c, hc, hx⟩ := mem_declarationsIn.mp hmem
  have honly : ∀ y ∈ c.declarations t tenantColumn, y = x := by
    intro y hy
    have hy := mem_declarationsIn.mpr ⟨c, hc, hy⟩
    rw [hdeclared, List.mem_singleton] at hy
    exact (Prod.mk.inj hy).2
  have hmem' : (j, d) ∈ denialsIn place.changeSet.changes t tenantColumn :=
    hdenied ▸ List.mem_singleton_self _
  obtain ⟨hd, hdenies⟩ := mem_denialsIn.mp hmem'
  have hne : i ≠ j := by
    rintro rfl
    obtain rfl := Option.some.inj (hc.symm.trans hd)
    obtain ⟨element, -⟩ := Change.mem_declarations.mp hx
    rw [hdenies.1] at element
    rcases element with h | h <;> cases h
  have atDeclaration := nullableTenant_of_declarations
    ⟨place, place.changeSet.changes.take i, c, place.changeSet.changes.drop (i + 1)⟩
    hx honly (nullable_iff.mpr hnullable)
  have atDenial := notNullWithoutDefault_of_denies
    ⟨place, place.changeSet.changes.take j, d, place.changeSet.changes.drop (j + 1)⟩
    hdenies hdefault
  refine ⟨_, _, SetPlace.getElem?_places hc, SetPlace.getElem?_places hd, hne, fun hij => ?_,
    fun hji => ?_⟩
  · rw [atDeclaration, atDenial, if_pos ((denied_after_iff hdenied).mpr hij),
      if_pos ((declared_before_iff hdeclared).mpr hij)]
    exact ⟨rfl, rfl⟩
  · rw [atDeclaration, atDenial, if_neg (mt (denied_after_iff hdenied).mp hji.asymm),
      if_neg (mt (declared_before_iff hdeclared).mp hji.asymm)]
    exact ⟨rfl, rfl⟩

/-- A tenant column that is added and made not null, in either order, beside the one of another
table. -/
theorem tenant_scans_agree_eitherWay :
    let declares : Change := .ofTexts .addColumn [(.tableName, "t")]
      [.ofName "code", .ofName tenantColumn]
    let denies : Change := .ofTexts .addNotNullConstraint
      [(.tableName, "t"), (.columnName, tenantColumn)] []
    let other : Change := .ofTexts .createTable [(.tableName, "u")] [.ofName tenantColumn]
    let before := SetPlace.ofChanges [other, declares, denies]
    let after := SetPlace.ofChanges [denies, other, declares]
    declarationsIn before.changeSet.changes (some "t") tenantColumn = [(1, .ofName tenantColumn)] ∧
      denialsIn before.changeSet.changes (some "t") tenantColumn = [(2, denies)] ∧
      declarationsIn after.changeSet.changes (some "t") tenantColumn = [(2, .ofName tenantColumn)] ∧
      denialsIn after.changeSet.changes (some "t") tenantColumn = [(0, denies)] ∧
      (∃ p q, before.places[1]? = some p ∧ before.places[2]? = some q ∧
        nullableTenant p = [] ∧ notNullWithoutDefault q = []) ∧
      ∃ p q, after.places[2]? = some p ∧ after.places[0]? = some q ∧
        (nullableTenant p).length = 1 ∧ (notNullWithoutDefault q).length = 1 := by
  intro declares denies other before after
  have declared : declarationsIn before.changeSet.changes (some "t") tenantColumn =
    [(1, .ofName tenantColumn)] := by decide
  have denied : denialsIn before.changeSet.changes (some "t") tenantColumn = [(2, denies)] := by
    decide
  have declared' : declarationsIn after.changeSet.changes (some "t") tenantColumn =
    [(2, .ofName tenantColumn)] := by decide
  have denied' : denialsIn after.changeSet.changes (some "t") tenantColumn = [(0, denies)] := by
    decide
  obtain ⟨p, q, hp, hq, -, first, -⟩ :=
    tenant_scans_agree declared (by decide) denied (by decide)
  obtain ⟨p', q', hp', hq', -, -, last⟩ :=
    tenant_scans_agree declared' (by decide) denied' (by decide)
  obtain ⟨found, found'⟩ := last (by decide)
  exact ⟨declared, denied, declared', denied', ⟨p, q, hp, hq, first (by decide)⟩,
    p', q', hp', hq', by rw [found]; rfl, by rw [found']; rfl⟩

end Check

end MigrationAudit
