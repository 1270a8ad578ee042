import Mathlib.Data.List.Nodup
import MigrationAudit.Json.Record

/-!
# Fields of records

Where one field sets what is seen of a record and the others keep it (`RecordField.Sets`), what is
seen at the end is what the field's label is given in the text, be it an object or a list
(`JsonMembers.reads_of_readFields`, `JsonItems.reads_of_readFields`).  Records whose members look
alike to the fields that read them are read alike (`JsonMembers.readFields_congr`,
`JsonItems.readFields_congr`).
-/

namespace MigrationAudit

theorem Reading.bind_eq_ok_iff {α β : Type} {x : Reading α} {f : α → Reading β} {b : β} :
    x >>= f = .ok b ↔ ∃ a, x = .ok a ∧ f a = .ok b := by
  cases x <;> simp [bind, Except.bind]

theorem JsonFault.check_eq_ok_iff {fault : Option JsonFault} {u : Unit} :
    check fault = .ok u ↔ fault = none := by
  cases fault <;> simp [check]

/-- The value under a label: in an object the member with the label, in a list the item at the
place of the label among the labels of the record. -/
def Json.member? (labels : List String) (label : String) : Json → Option Json
  | .object members => members.toList.lookup label
  | .array items => (labels.zip items.toList).lookup label
  | _ => none

variable {ρ β : Type}

/-! ## What a field sets -/

/-- Reading the field changes nothing of what is seen. -/
def RecordField.Keeps (view : ρ → β) (field : RecordField ρ) : Prop :=
  ∀ depth v change, field.read depth v = .ok change → ∀ r, view (change r) = view r

/-- The field with the label sets what is seen, once it is blank, to what `parse` reads; any other
field keeps it. -/
structure RecordField.Sets (label : String) (view : ρ → β) (blank : β) (parse : JsonReader β)
    (field : RecordField ρ) : Prop where
  own : field.label = label → ∀ depth v change, field.read depth v = .ok change →
    ∀ r, view r = blank → parse depth v = .ok (view (change r))
  other : field.label ≠ label → field.Keeps view

theorem RecordField.Keeps.sets {label : String} {view : ρ → β} {blank : β} {parse : JsonReader β}
    {field : RecordField ρ} (h : field.Keeps view) (hl : field.label ≠ label) :
    field.Sets label view blank parse :=
  ⟨fun he => absurd he hl, fun _ => h⟩

/-- What is seen is what the value given under the label, if any, is read as. -/
def Json.ReadsAs (blank : β) (parse : Json → Reading β) (seen : β) (given : Option Json) : Prop :=
  given.elim (seen = blank) fun v => parse v = .ok seen

section Sets

variable {fields : List (RecordField ρ)} {depth : Nat} {label : String} {view : ρ → β} {blank : β}
  {parse : JsonReader β}

theorem JsonMembers.view_eq_of_keeps {members : JsonMembers} {seen : List String} {r r' : ρ}
    (hf : ∀ field ∈ fields, field.label ∉ seen → field.Keeps view)
    (h : members.readFields fields depth seen r = .ok r') : view r' = view r := by
  fun_induction JsonMembers.readFields fields depth seen r members with
  | case1 seen r => cases h; rfl
  | case2 => cases h
  | case3 => cases h
  | case4 seen r key value rest hkey ih =>
    obtain ⟨_, -, hrest⟩ := Reading.bind_eq_ok_iff.mp h
    exact ih hf hrest
  | case5 => cases h
  | case6 seen r key value rest field hkey hnew ih =>
    obtain ⟨change, hchange, hrest⟩ := Reading.bind_eq_ok_iff.mp h
    have hlabel : field.label = key := by simpa using List.find?_some hkey
    have hkeeps : field.Keeps view := hf field (List.mem_of_find?_eq_some hkey) (hlabel ▸ hnew)
    rw [ih change (fun f hmem hnot => hf f hmem fun hs => hnot (.tail _ hs)) hrest,
      hkeeps _ _ _ hchange]

theorem JsonMembers.reads_of_readFields (hf : ∀ field ∈ fields, field.Sets label view blank parse)
    (hl : label ∈ fields.map (·.label)) {members : JsonMembers} {seen : List String} {r r' : ρ}
    (hseen : label ∉ seen) (hblank : view r = blank)
    (h : members.readFields fields depth seen r = .ok r') :
    Json.ReadsAs blank (parse depth) (view r') (members.toList.lookup label) := by
  fun_induction JsonMembers.readFields fields depth seen r members with
  | case1 seen r => cases h; exact hblank
  | case2 => cases h
  | case3 => cases h
  | case4 seen r key value rest hkey ih =>
    obtain ⟨_, -, hrest⟩ := Reading.bind_eq_ok_iff.mp h
    obtain ⟨field, hmem, rfl⟩ := List.mem_map.mp hl
    have hne : (field.label == key) = false := by simpa using List.find?_eq_none.mp hkey field hmem
    rw [JsonMembers.toList, List.lookup_cons, hne]
    exact ih hseen hblank hrest
  | case5 => cases h
  | case6 seen r key value rest field hkey hnew ih =>
    obtain ⟨change, hchange, hrest⟩ := Reading.bind_eq_ok_iff.mp h
    have hlabel : field.label = key := by simpa using List.find?_some hkey
    have hsets := hf field (List.mem_of_find?_eq_some hkey)
    rw [JsonMembers.toList, List.lookup_cons]
    by_cases hown : key = label
    · -- No later member has the label again, so what the field has set is there at the end.
      have hkept : view r' = view (change r) := view_eq_of_keeps
        (fun f hmem hnot => (hf f hmem).other fun he => hnot (by simp [he, hown])) hrest
      rw [hown, beq_self_eq_true, hkept]
      exact hsets.own (hlabel.trans hown) _ _ _ hchange r hblank
    · rw [beq_eq_false_iff_ne.mpr (Ne.symm hown)]
      refine ih change ?_ ?_ hrest
      · simpa [Ne.symm hown] using hseen
      · rw [hsets.other (hlabel ▸ hown) _ _ _ hchange, hblank]

theorem JsonItems.view_eq_of_keeps {items : JsonItems} {r r' : ρ}
    (hf : ∀ field ∈ fields, field.Keeps view) (h : items.readFields depth fields r = .ok r') :
    view r' = view r := by
  fun_induction JsonItems.readFields depth fields r items with
  | case1 fields r => cases h; rfl
  | case2 => cases h
  | case3 => cases h
  | case4 field fields r head rest ih =>
    obtain ⟨change, hchange, hrest⟩ := Reading.bind_eq_ok_iff.mp h
    obtain ⟨hfield, hfields⟩ := List.forall_mem_cons.mp hf
    rw [ih change hfields hrest, hfield _ _ _ hchange]

theorem JsonItems.reads_of_readFields (hf : ∀ field ∈ fields, field.Sets label view blank parse)
    (hnd : (fields.map (·.label)).Nodup) {items : JsonItems} {r r' : ρ} (hblank : view r = blank)
    (h : items.readFields depth fields r = .ok r') :
    Json.ReadsAs blank (parse depth) (view r')
      (((fields.map (·.label)).zip items.toList).lookup label) := by
  fun_induction JsonItems.readFields depth fields r items with
  | case1 fields r =>
    cases h
    rw [JsonItems.toList, List.zip_nil_right]
    exact hblank
  | case2 => cases h
  | case3 => cases h
  | case4 field fields r head rest ih =>
    obtain ⟨change, hchange, hrest⟩ := Reading.bind_eq_ok_iff.mp h
    obtain ⟨hfield, hfields⟩ := List.forall_mem_cons.mp hf
    obtain ⟨hnew, hnd⟩ := List.nodup_cons.mp (List.map_cons ▸ hnd)
    rw [JsonItems.toList, List.map_cons, List.zip_cons_cons, List.lookup_cons]
    by_cases hown : field.label = label
    · have hkept : view r' = view (change r) := view_eq_of_keeps
        (fun f hmem => (hfields f hmem).other fun he =>
          hnew (hown ▸ he ▸ List.mem_map_of_mem hmem)) hrest
      rw [hown, beq_self_eq_true, hkept]
      exact hfield.own hown _ _ _ hchange r hblank
    · rw [beq_eq_false_iff_ne.mpr (Ne.symm hown)]
      exact ih change hfields hnd (by rw [hfield.other hown _ _ _ hchange, hblank]) hrest

theorem Json.reads_of_readRecord {labels : List String} {start r : ρ} {j : Json}
    (h : Json.readRecord fields start depth j = .ok r)
    (hf : ∀ field ∈ fields, field.Sets label view blank parse) (hblank : view start = blank)
    (hlabels : fields.map (·.label) = labels) (hnd : labels.Nodup) (hl : label ∈ labels) :
    ReadsAs blank (parse (depth + 1)) (view r) (j.member? labels label) := by
  subst hlabels
  rcases j with _ | _ | _ | _ | items | members | _ <;> simp only [readRecord, reduceCtorEq] at h
  · split at h
    · exact items.reads_of_readFields hf hnd hblank h
    · cases h
  · split at h
    · exact members.reads_of_readFields hf hl List.not_mem_nil hblank h
    · cases h

end Sets

/-! ## Lists of values -/

theorem JsonItems.forall₂_of_read {read : Json → Reading β} {items : JsonItems} {xs : List β}
    (h : items.read read = .ok xs) : List.Forall₂ (fun x j => read j = .ok x) xs items.toList := by
  fun_induction JsonItems.read read items generalizing xs with
  | case1 => cases h; exact .nil
  | case2 => cases h
  | case3 head rest ih =>
    obtain ⟨x, hx, htail⟩ := Reading.bind_eq_ok_iff.mp h
    obtain ⟨xs, hxs, hcons⟩ := Reading.bind_eq_ok_iff.mp htail
    cases hcons
    exact .cons hx (ih hxs)

theorem JsonItems.read_congr {read : Json → Reading β} {js js' : List Json}
    (h : List.Forall₂ (fun j j' => read j' = read j) js js') :
    (ofList js').read read = (ofList js).read read := by
  induction h with
  | nil => rfl
  | cons hj _ ih => simp only [ofList, JsonItems.read, hj, ih]

/-! ## Records that look alike -/

/-- Objects with the same labels in the same order, whose values are alike under their labels. -/
inductive JsonMembers.Alike (like : String → Json → Json → Prop) : JsonMembers → JsonMembers → Prop
  | stop (fault : Option JsonFault) : Alike like (.stop fault) (.stop fault)
  | member {label : String} {v v' : Json} {rest rest' : JsonMembers} :
    like label v v' → Alike like rest rest' →
      Alike like (.member (some label) v rest) (.member (some label) v' rest')

/-- Lists whose items are alike under the labels of their places. -/
inductive JsonItems.Alike (like : String → Json → Json → Prop) :
    List String → JsonItems → JsonItems → Prop
  | stop (labels : List String) (fault : Option JsonFault) :
    Alike like labels (.stop fault) (.stop fault)
  | item {label : String} {labels : List String} {v v' : Json} {rest rest' : JsonItems} :
    like label v v' → Alike like labels rest rest' →
      Alike like (label :: labels) (.item v rest) (.item v' rest')

/-- Records written in the same way whose values are alike under their labels. -/
inductive Json.Alike (like : String → Json → Json → Prop) (labels : List String) :
    Json → Json → Prop
  | object {members members' : JsonMembers} : members.Alike like members' →
    Alike like labels (.object members) (.object members')
  | array {items items' : JsonItems} : items.Alike like labels items' →
    Alike like labels (.array items) (.array items')

/-- Values with the same faults, be they read or skipped. -/
structure Json.SameFaults (v v' : Json) : Prop where
  read : ∀ depth, v'.readFault depth = v.readFault depth
  skip : v'.skipFault = v.skipFault

section Alike

variable {like : String → Json → Json → Prop} {labels : List String} {depth : Nat}
  {members members' : JsonMembers} {items items' : JsonItems} {v v' : Json}

section

variable (hl : ∀ {label v v'}, like label v v' → v.SameFaults v')
include hl

theorem JsonMembers.Alike.readFault_eq (h : members.Alike like members') (depth : Nat) :
    members'.readFault depth = members.readFault depth := by
  induction h with
  | stop => rfl
  | member hv _ ih => rw [readFault, readFault, (hl hv).read, ih]

theorem JsonMembers.Alike.skipFault_eq (h : members.Alike like members') :
    members'.skipFault = members.skipFault := by
  induction h with
  | stop => rfl
  | member hv _ ih => rw [skipFault, skipFault, (hl hv).skip, ih]

theorem JsonItems.Alike.readFault_eq (h : items.Alike like labels items') (depth : Nat) :
    items'.readFault depth = items.readFault depth := by
  induction h with
  | stop => rfl
  | item hv _ ih => rw [readFault, readFault, (hl hv).read, ih]

theorem JsonItems.Alike.skipFault_eq (h : items.Alike like labels items') :
    items'.skipFault = items.skipFault := by
  induction h with
  | stop => rfl
  | item hv _ ih => rw [skipFault, skipFault, (hl hv).skip, ih]

theorem Json.Alike.sameFaults (h : v.Alike like labels v') : v.SameFaults v' := by
  cases h with
  | object h => exact ⟨fun depth => by simp only [readFault, h.readFault_eq hl], h.skipFault_eq hl⟩
  | array h => exact ⟨fun depth => by simp only [readFault, h.readFault_eq hl], h.skipFault_eq hl⟩

end

theorem Json.sameFaults_list {js js' : List Json} (h : List.Forall₂ SameFaults js js') :
    (list js).SameFaults (list js') := by
  have hfaults : (∀ depth, (JsonItems.ofList js').readFault depth =
      (JsonItems.ofList js).readFault depth) ∧
      (JsonItems.ofList js').skipFault = (JsonItems.ofList js).skipFault := by
    induction h with
    | nil => exact ⟨fun _ => rfl, rfl⟩
    | cons hj _ ih =>
      simp only [JsonItems.ofList, JsonItems.readFault, JsonItems.skipFault, hj.read, hj.skip, ih,
        implies_true, and_self]
  exact ⟨fun depth => by rw [list, list, readFault, readFault, hfaults.1], hfaults.2⟩

variable {fields : List (RecordField ρ)}

theorem JsonMembers.readFields_congr (hs : ∀ {label v v'}, like label v v' → v.SameFaults v')
    (hf : ∀ field ∈ fields, ∀ {v v'}, like field.label v v' →
      ∀ depth, field.read depth v' = field.read depth v)
    (h : members.Alike like members') (seen : List String) (r : ρ) :
    members'.readFields fields depth seen r = members.readFields fields depth seen r := by
  induction h generalizing seen r with
  | stop => cases ‹Option JsonFault› <;> rfl
  | @member label v v' rest rest' hv _ ih =>
    rw [readFields, readFields]
    cases hfield : fields.find? (·.label == label) with
    | none => simp only [(hs hv).skip, ih]
    | some field =>
      have hlabel : field.label = label := by simpa using List.find?_some hfield
      have hread := hf field (List.mem_of_find?_eq_some hfield) (hlabel ▸ hv) depth
      simp only [hread, ih]

theorem JsonItems.readFields_congr
    (hf : ∀ field ∈ fields, ∀ {v v'}, like field.label v v' →
      ∀ depth, field.read depth v' = field.read depth v)
    (h : items.Alike like (fields.map (·.label)) items') (r : ρ) :
    items'.readFields depth fields r = items.readFields depth fields r := by
  generalize hlabels : fields.map (·.label) = labels at h
  induction h generalizing fields r with
  | stop => cases ‹Option JsonFault› <;> rfl
  | @item label labels v v' rest rest' hv _ ih =>
    obtain ⟨field, fields, rfl, rfl, rfl⟩ := List.map_eq_cons_iff.mp hlabels
    obtain ⟨hfield, hfields⟩ := List.forall_mem_cons.mp hf
    simp only [readFields, hfield hv, ih hfields _ rfl]

theorem Json.readRecord_congr (hs : ∀ {label v v'}, like label v v' → v.SameFaults v')
    (hf : ∀ field ∈ fields, ∀ {v v'}, like field.label v v' →
      ∀ depth, field.read depth v' = field.read depth v)
    (hlabels : fields.map (·.label) = labels) (h : v.Alike like labels v') (start : ρ) :
    readRecord fields start depth v' = readRecord fields start depth v := by
  subst hlabels
  cases h with
  | object h => simp only [readRecord, JsonMembers.readFields_congr hs hf h]
  | array h => simp only [readRecord, JsonItems.readFields_congr hf h]

end Alike

end MigrationAudit
