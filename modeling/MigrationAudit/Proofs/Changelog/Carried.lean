import MigrationAudit.Proofs.Changelog.Reading
import MigrationAudit.Proofs.Rule.Silence

/-!
# What a record carries

A record may carry members that its kind does not know, and these more than once.  What a change is
read from carries every attribute of its element at most once
(`JsonMembers.lookup_eq_some_of_readFields`), so the change has a value for an attribute of its
element exactly if its record carries one that is more than null (`Change.carries_iff`).
-/

namespace MigrationAudit

/-- All members with their labels: those of an object, or the items of a list by the labels of the
record. -/
def Json.labelled (labels : List String) : Json → List (String × Json)
  | .object members => members.toList
  | .array items => labels.zip items.toList
  | _ => []

/-- Some member with the label is more than null. -/
def Json.Carries (labels : List String) (label : String) (j : Json) : Prop :=
  ∃ v, (label, v) ∈ j.labelled labels ∧ v ≠ .null

theorem Json.member?_eq_lookup (labels : List String) (label : String) (j : Json) :
    j.member? labels label = (j.labelled labels).lookup label := by
  cases j <;> rfl

section Fields

variable {ρ : Type} {fields : List (RecordField ρ)} {depth : Nat} {label : String} {v : Json}

/-- A label that is read stands in an object no more than once. -/
theorem JsonMembers.lookup_eq_some_of_readFields {members : JsonMembers} {seen : List String}
    {r r' : ρ} (h : members.readFields fields depth seen r = .ok r')
    (hl : label ∈ fields.map (·.label)) (hv : (label, v) ∈ members.toList) :
    label ∉ seen ∧ members.toList.lookup label = some v := by
  fun_induction JsonMembers.readFields fields depth seen r members with
  | case1 => cases hv
  | case2 => cases h
  | case3 => cases h
  | case4 seen r key value rest hkey ih =>
    obtain ⟨_, -, hrest⟩ := Reading.bind_eq_ok_iff.mp h
    obtain ⟨field, hmem, rfl⟩ := List.mem_map.mp hl
    have hne : (field.label == key) = false := by simpa using List.find?_eq_none.mp hkey field hmem
    rw [JsonMembers.toList] at hv ⊢
    rw [List.lookup_cons, hne]
    refine ih hrest ((List.mem_cons.mp hv).resolve_left fun he => ?_)
    simp [(Prod.mk.inj he).1] at hne
  | case5 => cases h
  | case6 seen r key value rest field hkey hnew ih =>
    obtain ⟨change, -, hrest⟩ := Reading.bind_eq_ok_iff.mp h
    rw [JsonMembers.toList] at hv ⊢
    rcases List.mem_cons.mp hv with he | hv
    · obtain ⟨rfl, rfl⟩ := Prod.mk.inj he
      exact ⟨hnew, by rw [List.lookup_cons, beq_self_eq_true]⟩
    · -- behind the first member its key has been seen, so a later member has another label
      obtain ⟨hseen, hlookup⟩ := ih change hrest hv
      obtain ⟨hne, hseen⟩ := not_or.mp (mt List.mem_cons.mpr hseen)
      exact ⟨hseen, by rw [List.lookup_cons, beq_false_of_ne hne, hlookup]⟩

theorem lookup_zip_eq_some : ∀ {labels : List String} {vs : List Json}, labels.Nodup →
    (label, v) ∈ labels.zip vs → (labels.zip vs).lookup label = some v
  | [], _, _, hv => by cases hv
  | _ :: _, [], _, hv => by cases hv
  | l :: labels, w :: vs, hnd, hv => by
    obtain ⟨hl, hnd⟩ := List.nodup_cons.mp hnd
    rw [List.zip_cons_cons] at hv ⊢
    rcases List.mem_cons.mp hv with he | hv
    · obtain ⟨rfl, rfl⟩ := Prod.mk.inj he
      rw [List.lookup_cons, beq_self_eq_true]
    · have hne : label ≠ l := fun he => hl (he ▸ (List.of_mem_zip hv).1)
      rw [List.lookup_cons, beq_false_of_ne hne]
      exact lookup_zip_eq_some hnd hv

end Fields

namespace Change

variable {depth : Nat} {j : Json} {c : Change} {a : Attribute}

theorem member?_eq_some_of_read (h : read depth j = .ok c) (ha : a ∈ c.element.attributes)
    {v : Json} (hv : (a.label, v) ∈ j.labelled (RecordKind.change c.element).members) :
    j.member? (RecordKind.change c.element).members a.label = some v := by
  rw [Json.member?_eq_lookup]
  rcases (read_eq_ok_iff.mp h).2 with
    ⟨members, e, rfl, -, hc⟩ | ⟨head, rest, e, rfl, -, -, hc⟩
  · have he : c.element = e := members.view_eq_of_keeps (fun f hmem _ => keeps_element e f hmem) hc
    have hl : a.label ∈ (fields e).map (·.label) := by
      rw [fields, List.map_append, List.map_map, ← he, Element.declared_eq]
      exact List.mem_append_left _ (List.mem_map_of_mem ha)
    exact (JsonMembers.lookup_eq_some_of_readFields hc hl hv).2
  · exact lookup_zip_eq_some (RecordKind.change c.element).members_nodup hv

/-- A change has a value for an attribute of its element exactly if its record carries one. -/
theorem carries_iff (h : read depth j = .ok c) (ha : a ∈ c.element.attributes) :
    j.Carries (RecordKind.change c.element).members a.label ↔ (c.value? a).isSome = true := by
  have tells := (writtenAs_of_read h).tells
  have hl : a.label ∈ (RecordKind.change c.element).labels := by
    rw [RecordKind.labels, RecordKind.declared, Element.declared_eq]
    exact List.mem_map_of_mem ha
  have htext : c.text? a = (j.member? (RecordKind.change c.element).members a.label).bind
      Json.scalarText? := Except.ok.inj ((c.lookup_label a).symm.trans (tells.own _ hl))
  rw [← Option.isSome_map (f := AttributeValue.toText), ← text?, htext]
  constructor
  · rintro ⟨v, hv, hne⟩
    have hmember := member?_eq_some_of_read h ha hv
    have hgiven : v.given? = some v := by
      cases v <;> first | rfl | exact absurd rfl hne
    have hscalar := tells.scalar _ hl v (by rw [hmember, Option.bind_some, hgiven])
    rwa [hmember, Option.bind_some]
  · intro hsome
    obtain ⟨text, htext⟩ := Option.isSome_iff_exists.mp hsome
    obtain ⟨v, hmember, hv⟩ := Option.bind_eq_some_iff.mp htext
    refine ⟨v, ?_, ?_⟩
    · rw [Json.member?_eq_lookup] at hmember
      obtain ⟨before, after, hlabelled, -⟩ := List.lookup_eq_some_iff.mp hmember
      rw [hlabelled]
      exact List.mem_append_right before List.mem_cons_self
    · rintro rfl
      cases hv

end Change

end MigrationAudit
