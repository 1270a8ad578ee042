import MigrationAudit.Proofs.Changelog.Reading

/-!
# Scalars spelled out

An attribute that may be a number or a flag is kept as a text, so it may as well be written as that
text: a change whose record is spelled out, in itself or in its columns, reads as before
(`Change.read_of_respelled`).
-/

namespace MigrationAudit

/-- Under the label of an attribute that may be a number or a flag, a scalar may become its text. -/
def Json.SpelledOut (label : String) (v v' : Json) : Prop :=
  v' = v ∨ ∃ (a : Attribute) (s : String),
    a.label = label ∧ a.form = .scalar ∧ v.scalarText? = some s ∧ v' = .text s

/-- A record of a column with some of its scalars spelled out. -/
def NestedColumn.Respelled : Json → Json → Prop :=
  Json.Alike Json.SpelledOut RecordKind.column.members

/-- In a record of a change, the nested columns may be respelled as well. -/
def Change.SpelledOut (e : Element) (label : String) (v v' : Json) : Prop :=
  v.SpelledOut label v' ∨ e.nestsColumns ∧ label = "columns" ∧
    ∃ js js', v = .list js ∧ v' = .list js' ∧ List.Forall₂ NestedColumn.Respelled js js'

/-- A record of a change with some of its scalars, and of those of its columns, spelled out. -/
def Change.Respelled (e : Element) : Json → Json → Prop :=
  Json.Alike (SpelledOut e) (RecordKind.change e).members

namespace Json

variable {label : String} {v v' : Json}

theorem sameFaults_text {s : String} (h : v.scalarText? = some s) : v.SameFaults (.text s) := by
  rcases v with _ | _ | _ | _ | _ | _ | _
  case bool | number | text => exact ⟨fun _ => rfl, rfl⟩
  all_goals cases h

theorem readScalar_eq_ok {s : String} (h : v.scalarText? = some s) : readScalar v = .ok s := by
  rcases v with _ | (_ | _) | _ | _ | _ | _ | _ <;> cases h <;> rfl

theorem SpelledOut.sameFaults (h : v.SpelledOut label v') : v.SameFaults v' := by
  rcases h with rfl | ⟨a, s, -, -, hs, rfl⟩
  · exact ⟨fun _ => rfl, rfl⟩
  · exact sameFaults_text hs

theorem SpelledOut.eq (hl : Attribute.ofLabel? label = none) (h : v.SpelledOut label v') :
    v' = v := by
  rcases h with rfl | ⟨a, s, ha, -, -, -⟩
  · rfl
  · exact absurd ha (Attribute.label_ne label hl a)

theorem SpelledOut.read {a : Attribute} (h : v.SpelledOut a.label v') :
    a.form.read v' = a.form.read v := by
  rcases h with rfl | ⟨b, s, hb, hform, hs, rfl⟩
  · rfl
  · have hv : v ≠ .null := by
      rintro rfl
      cases hs
    have hread : readOptional readScalar v = .ok (some s) := by
      rw [readOptional, readScalar_eq_ok hs, Except.map]
      exact hv
    rw [← Attribute.label_injective hb, hform, AttributeForm.read, AttributeForm.read, hread]
    rfl

theorem SpelledOut.field_read {ρ : Type} {update : (AttributeValues → AttributeValues) → ρ → ρ}
    {a : Attribute} (h : v.SpelledOut a.label v') (depth : Nat) :
    (a.field update).read depth v' = (a.field update).read depth v := by
  simp only [Attribute.field, Attribute.read, h.read]

end Json

namespace NestedColumn

variable {j j' : Json} {js js' : List Json}

theorem Respelled.sameFaults (h : Respelled j j') : j.SameFaults j' :=
  Json.Alike.sameFaults Json.SpelledOut.sameFaults h

theorem Respelled.read (h : Respelled j j') (depth : Nat) : read depth j' = read depth j := by
  refine Json.readRecord_congr Json.SpelledOut.sameFaults ?_ map_label_fields h _
  refine forall_mem_fields (fun a _ v v' hv => hv.field_read) fun {v v'} hv depth => ?_
  rw [hv.eq (by decide)]

theorem readList_of_respelled (h : List.Forall₂ Respelled js js') (depth : Nat) :
    (Json.list js').readList NestedColumn.read depth =
      (Json.list js).readList NestedColumn.read depth := by
  rw [Json.list, Json.list, Json.readList, Json.readList,
    JsonItems.read_congr (h.imp fun _ _ hj => hj.read (depth + 1))]

end NestedColumn

namespace Change

variable {depth : Nat} {e : Element} {v v' j j' : Json} {c : Change} {label : String}

theorem SpelledOut.sameFaults (h : SpelledOut e label v v') : v.SameFaults v' := by
  rcases h with h | ⟨-, -, js, js', rfl, rfl, hjs⟩
  · exact h.sameFaults
  · exact Json.sameFaults_list (hjs.imp fun _ _ hj => hj.sameFaults)

theorem SpelledOut.eq_of_elementKey (h : SpelledOut e elementKey v v') : v' = v := by
  rcases h with h | ⟨-, hlabel, -⟩
  · exact h.eq (by decide)
  · exact absurd hlabel (by decide)

theorem SpelledOut.field_read : ∀ field ∈ fields e, ∀ {v v'}, SpelledOut e field.label v v' →
    ∀ depth, field.read depth v' = field.read depth v := by
  refine forall_mem_fields (fun a _ v v' h => ?_) fun {v v'} h depth => ?_
  · rcases h with h | ⟨-, hlabel, -⟩
    · exact h.field_read
    · exact absurd hlabel (Attribute.label_ne "columns" (by decide) a)
  · rcases h with h | ⟨-, -, js, js', rfl, rfl, hjs⟩
    · rw [h.eq (by decide)]
    · simp only [columnsField, NestedColumn.readList_of_respelled hjs]

theorem elementOf_congr {members members' : JsonMembers} (h : members.Alike (SpelledOut e) members')
    (found : Option Element) : elementOf depth found members' = elementOf depth found members := by
  induction h generalizing found with
  | stop => cases ‹Option JsonFault› <;> rfl
  | @member label v v' rest rest' hv _ ih =>
    rw [elementOf, elementOf]
    split
    · next hkey =>
      rw [hkey] at hv
      rw [hv.eq_of_elementKey]
      simp only [ih]
    · simp only [hv.sameFaults.read, ih]

theorem read_of_respelled (h : read depth j = .ok c) (hr : Respelled c.element j j') :
    read depth j' = .ok c := by
  obtain ⟨hdepth, ⟨members, e, rfl, he, hc⟩ | ⟨head, rest, e, rfl, he, hfault, hc⟩⟩ :=
    read_eq_ok_iff.mp h
  · have helement : c.element = e :=
      members.view_eq_of_keeps (fun f hmem _ => keeps_element e f hmem) hc
    rw [helement] at hr
    cases hr with
    | @object _ members' hm =>
      refine read_eq_ok_iff.mpr ⟨hdepth, .inl ⟨members', e, rfl, ?_, ?_⟩⟩
      · rw [elementOf_congr hm, he]
      · rw [JsonMembers.readFields_congr SpelledOut.sameFaults SpelledOut.field_read hm, hc]
  · have helement : c.element = e := rest.view_eq_of_keeps (keeps_element e) hc
    rw [helement, Respelled, ← map_label_fields] at hr
    cases hr with
    | array hi =>
      cases hi with
      | @item _ _ _ head' _ rest' hhead hrest =>
        refine read_eq_ok_iff.mpr ⟨hdepth, .inr ⟨head', rest', e, rfl, ?_, ?_, ?_⟩⟩
        · rw [hhead.eq_of_elementKey, he]
        · rw [hrest.readFault_eq SpelledOut.sameFaults, hfault]
        · rw [JsonItems.readFields_congr SpelledOut.field_read hrest, hc]

/-- What can be looked up in a change, in its columns and in their constraints is what the record
says that it was read from, and to spell out scalars in the record changes nothing of it. -/
theorem lookup_exact (h : read depth j = .ok c) :
    c.WrittenAs j ∧ ∀ j', Respelled c.element j j' → read depth j' = .ok c :=
  ⟨writtenAs_of_read h, fun _ hr => read_of_respelled h hr⟩

/-- A record that adds a column with a default value that may be a number. -/
def addedColumn (value : Json) : Json :=
  .record [("tableName", .text "t"), ("change", .text "addColumn"), ("columns", .list [.record
    [("name", .text "c"), ("defaultValueNumeric", value),
      ("constraints", .record [("nullable", .bool false)])]])]

/-- The default value 50 can be looked up, be it written as a number or as a text. -/
theorem lookup_exact_addedColumn :
    let c : Change := ⟨.addColumn, [(.tableName, .text "t")],
      [⟨[(.name, .text "c"), (.defaultValueNumeric, .text "50")],
        some ⟨[(.nullable, .flag false)]⟩⟩]⟩
    read 0 (addedColumn (.number (.natural 50))) = .ok c ∧
      c.WrittenAs (addedColumn (.number (.natural 50))) ∧
      read 0 (addedColumn (.text "50")) = .ok c := by
  intro c
  have h : read 0 (addedColumn (.number (.natural 50))) = .ok c := by rfl
  have hcolumn : NestedColumn.Respelled
      (.record [("name", .text "c"), ("defaultValueNumeric", .number (.natural 50)),
        ("constraints", .record [("nullable", .bool false)])])
      (.record [("name", .text "c"), ("defaultValueNumeric", .text "50"),
        ("constraints", .record [("nullable", .bool false)])]) :=
    .object (.member (.inl rfl) (.member
      (.inr ⟨.defaultValueNumeric, "50", rfl, rfl, by rfl, rfl⟩) (.member (.inl rfl) (.stop none))))
  have hr : Respelled .addColumn (addedColumn (.number (.natural 50))) (addedColumn (.text "50")) :=
    .object (.member (.inl (.inl rfl)) (.member (.inl (.inl rfl)) (.member
      (.inr ⟨rfl, rfl, _, _, rfl, rfl, .cons hcolumn .nil⟩) (.stop none))))
  exact ⟨h, (lookup_exact h).1, (lookup_exact h).2 _ hr⟩

end Change

end MigrationAudit
