import MigrationAudit.Changelog.Reading
import MigrationAudit.Proofs.Json.Record

/-!
# Attributes as they are written

What can be looked up in a change is what its record says, value by value, in the nested columns and
their constraints as well (`Change.WrittenAs`).  Which attributes a record is read for and which can
be looked up in what was read are two lists of the same attributes (`Element.declared_eq`), and how
an attribute is read says how its value is shown (`AttributeForm.read_eq_ok`).
-/

namespace MigrationAudit

/-! ## What a record says -/

/-- A scalar as a text: a text as it is, a flag or a number as it is written. -/
def Json.scalarText? : Json → Option String
  | .text s => some s
  | .number n => some n.render
  | .bool true => some "true"
  | .bool false => some "false"
  | _ => none

/-- The value, if it is more than null. -/
def Json.given? : Json → Option Json
  | .null => none
  | j => some j

def Json.items : Json → List Json
  | .array items => items.toList
  | _ => []

/-- What a record with attributes is a record of. -/
inductive RecordKind where
  | change (e : Element) | column | constraints

namespace RecordKind

def declared : RecordKind → List Attribute
  | change e => e.declared
  | column => NestedColumn.declared
  | constraints => InlineConstraints.declared

/-- Whom a look-up that fails names. -/
def owner : RecordKind → String
  | change e => e.name
  | column => "column"
  | constraints => "constraints"

def labels (kind : RecordKind) : List String := kind.declared.map Attribute.label

/-- The labels of all that the record may hold, in the order of a list. -/
def members : RecordKind → List String
  | change e =>
    Change.elementKey :: (labels (change e) ++ if e.nestsColumns then ["columns"] else [])
  | column => labels column ++ ["constraints"]
  | constraints => labels constraints

/-- Look-ups tell what a record says.  A label of the record gives the text of the scalar under it,
and nothing where that is null or missing; a label of other records gives nothing, and a label of no
record is a mistake. -/
structure Tells (kind : RecordKind) (j : Json) (lookup : String → Except Failure (Option String)) :
    Prop where
  own : ∀ label ∈ kind.labels,
    lookup label = .ok ((j.member? kind.members label).bind Json.scalarText?)
  scalar : ∀ label ∈ kind.labels, ∀ v, (j.member? kind.members label).bind Json.given? = some v →
    v.scalarText?.isSome
  foreign : ∀ label ∉ kind.labels, (∃ other : RecordKind, label ∈ other.labels) →
    lookup label = .ok none
  unknown : ∀ label, (∀ other : RecordKind, label ∉ other.labels) →
    lookup label = .error (.unknownAttribute kind.owner label)

end RecordKind

def InlineConstraints.WrittenAs (c : InlineConstraints) (j : Json) : Prop :=
  RecordKind.constraints.Tells j c.lookup

structure NestedColumn.WrittenAs (c : NestedColumn) (j : Json) : Prop where
  tells : RecordKind.column.Tells j c.lookup
  constraints : Option.Rel InlineConstraints.WrittenAs c.constraints?
    ((j.member? RecordKind.column.members "constraints").bind Json.given?)

structure Change.WrittenAs (c : Change) (j : Json) : Prop where
  element : j.member? (RecordKind.change c.element).members elementKey = some (.text c.element.name)
  tells : (RecordKind.change c.element).Tells j c.lookup
  columns : List.Forall₂ NestedColumn.WrittenAs c.columns
    (if c.element.nestsColumns then
      ((j.member? (RecordKind.change c.element).members "columns").map Json.items).getD []
    else [])

/-! ## The tables of attributes -/

theorem Element.declared_eq (e : Element) : e.declared = e.attributes := by
  cases e <;> rfl

theorem Attribute.label_injective : Function.Injective label := fun a b h =>
  Option.some.inj (by rw [← ofLabel?_label a, h, ofLabel?_label b])

theorem Attribute.label_ne (label : String) (h : ofLabel? label = none) (a : Attribute) :
    a.label ≠ label := by
  rintro rfl
  rw [ofLabel?_label] at h
  cases h

theorem Attribute.exists_declared (a : Attribute) : ∃ kind : RecordKind, a ∈ kind.declared := by
  have hall : ∀ a ∈ all, a ∈ RecordKind.constraints.declared ∨ a ∈ RecordKind.column.declared ∨
      ∃ e ∈ Element.all, a ∈ (RecordKind.change e).declared := by decide +kernel
  rcases hall a (mem_all a) with h | h | ⟨e, -, h⟩
  · exact ⟨_, h⟩
  · exact ⟨_, h⟩
  · exact ⟨_, h⟩

theorem RecordKind.members_nodup (kind : RecordKind) : kind.members.Nodup := by
  rcases kind with e | _ | _
  · cases e <;> decide +kernel
  · decide +kernel
  · decide +kernel

/-- A label of no kind of record is no attribute's. -/
theorem Attribute.ofLabel?_eq_none {label : String} (h : ∀ kind : RecordKind, label ∉ kind.labels) :
    ofLabel? label = none := by
  rw [ofLabel?, List.find?_eq_none]
  intro a _ ha
  obtain ⟨kind, hkind⟩ := a.exists_declared
  exact h kind (List.mem_map.mpr ⟨a, hkind, by simpa using ha⟩)

/-! ## Fields of attributes -/

theorem AttributeValues.lookup_add (values : AttributeValues) (a b : Attribute)
    (x : Option AttributeValue) :
    List.lookup a (values.add b x) =
      if b = a then (List.lookup a values).or x else List.lookup a values := by
  cases x with
  | none => rw [add, Option.or_none, ite_self]
  | some v =>
    rw [add, List.lookup_append]
    by_cases hab : b = a
    · simp [hab]
    · rw [List.lookup_cons, beq_false_of_ne (Ne.symm hab), List.lookup_nil, Option.or_none,
        if_neg hab]

section Fields

variable {ρ β : Type} {update : (AttributeValues → AttributeValues) → ρ → ρ}

@[simp]
theorem Attribute.label_field (a : Attribute) : (a.field update).label = a.label := rfl

theorem Attribute.field_read_eq_ok_iff {a : Attribute} {depth : Nat} {v : Json} {change : ρ → ρ} :
    (a.field update).read depth v = .ok change ↔
      ∃ x, a.form.read v = .ok x ∧ change = update fun values => values.add a x := by
  simp only [field, read, bind_assoc, Reading.bind_eq_ok_iff]
  simp [pure, Except.pure, eq_comm]

theorem Attribute.keeps_field {view : ρ → β} (h : ∀ add r, view (update add r) = view r)
    (a : Attribute) : (a.field update).Keeps view := by
  intro depth v change hread r
  obtain ⟨x, -, rfl⟩ := field_read_eq_ok_iff.mp hread
  exact h _ r

/-- The field of an attribute sets the value of this attribute and of no other. -/
theorem Attribute.sets_field {values : ρ → AttributeValues}
    (h : ∀ add r, values (update add r) = add (values r)) (a b : Attribute) :
    (b.field update).Sets a.label (fun r => List.lookup a (values r)) none
      fun _ => a.form.read where
  own := by
    intro hlabel depth v change hread r hblank
    obtain rfl := label_injective hlabel
    obtain ⟨x, hx, rfl⟩ := field_read_eq_ok_iff.mp hread
    rw [hx, h, AttributeValues.lookup_add, if_pos rfl, hblank, Option.none_or]
  other := by
    intro hlabel depth v change hread r
    obtain ⟨x, -, rfl⟩ := field_read_eq_ok_iff.mp hread
    simp only [h, AttributeValues.lookup_add]
    exact if_neg fun he : b = a => hlabel (he ▸ rfl)

end Fields

/-- What is read in the form of an attribute is the text of the scalar, unless null is written. -/
theorem AttributeForm.read_eq_ok {form : AttributeForm} {v : Json} {x : Option AttributeValue}
    (h : form.read v = .ok x) :
    x.map AttributeValue.toText = v.scalarText? ∧
      ∀ w, v.given? = some w → w.scalarText?.isSome := by
  rcases v with _ | (_ | _) | _ | _ | _ | _ | _ <;> cases form <;> cases h <;>
    simp [Json.given?, Json.scalarText?, AttributeValue.toText]

namespace RecordKind

variable {kind : RecordKind} {values : AttributeValues} {j : Json}

/-- Look-ups in values that were read attribute by attribute tell what the record says. -/
theorem tells_of_reads
    (h : ∀ a ∈ kind.declared,
      Json.ReadsAs none a.form.read (List.lookup a values) (j.member? kind.members a.label)) :
    kind.Tells j (values.lookup kind.owner kind.declared) where
  own := by
    intro label hl
    obtain ⟨a, ha, rfl⟩ := List.mem_map.mp hl
    have hread := h a ha
    rw [AttributeValues.lookup, Attribute.ofLabel?_label]
    simp only [AttributeValues.value?, if_pos ha]
    cases hj : j.member? kind.members a.label with
    | none =>
      rw [hj] at hread
      exact congrArg _ (congrArg _ hread)
    | some v =>
      rw [hj] at hread
      exact congrArg _ (AttributeForm.read_eq_ok hread).1
  scalar := by
    intro label hl w hw
    obtain ⟨a, ha, rfl⟩ := List.mem_map.mp hl
    obtain ⟨v, hv, hgiven⟩ := Option.bind_eq_some_iff.mp hw
    have hread := h a ha
    rw [hv] at hread
    exact (AttributeForm.read_eq_ok hread).2 w hgiven
  foreign := by
    rintro label hl ⟨other, hother⟩
    obtain ⟨a, ha, rfl⟩ := List.mem_map.mp hother
    have hnot : a ∉ kind.declared := fun hmem => hl (List.mem_map_of_mem hmem)
    rw [AttributeValues.lookup, Attribute.ofLabel?_label]
    simp only [AttributeValues.value?, if_neg hnot, Option.map_none]
  unknown := by
    intro label hl
    rw [AttributeValues.lookup, Attribute.ofLabel?_eq_none hl]

end RecordKind

/-! ## Constraints and columns -/

namespace InlineConstraints

theorem map_label_fields : fields.map (·.label) = RecordKind.constraints.members := List.map_map ..

theorem writtenAs_of_read {depth : Nat} {j : Json} {c : InlineConstraints}
    (h : read depth j = .ok c) : c.WrittenAs j := by
  refine RecordKind.tells_of_reads fun a ha => ?_
  have hsets : ∀ field ∈ fields,
      field.Sets a.label (fun c => List.lookup a c.values) none fun _ => a.form.read :=
    List.forall_mem_map.mpr fun b _ => Attribute.sets_field (fun _ _ => rfl) a b
  exact Json.reads_of_readRecord h hsets rfl map_label_fields RecordKind.constraints.members_nodup
    (List.mem_map_of_mem ha)

end InlineConstraints

theorem Json.ReadsAs.rel_given {α : Type} {read : Json → Reading α} {p : α → Json → Prop}
    {seen : Option α} {given : Option Json} (h : ReadsAs none (readOptional read) seen given)
    (hp : ∀ {v x}, read v = .ok x → p x v) : Option.Rel p seen (given.bind given?) := by
  rcases given with _ | v
  · exact h ▸ .none
  · by_cases hnull : v = .null
    · subst hnull
      cases h
      exact .none
    · have hread : (read v).map some = .ok seen := by
        rw [← h, readOptional]
        exact hnull
      have hgiven : v.given? = some v := by
        rw [given?]
        exact hnull
      rw [Option.bind_some, hgiven]
      cases hv : read v with
      | error fault => simp [hv, Except.map] at hread
      | ok x =>
        rw [hv] at hread
        cases hread
        exact .some (hp hv)

theorem Json.ReadsAs.forall₂_items {α : Type} {depth : Nat} {read : JsonReader α}
    {p : α → Json → Prop} {seen : List α} {given : Option Json}
    (h : ReadsAs [] (readList read depth) seen given)
    (hp : ∀ {v x}, read (depth + 1) v = .ok x → p x v) :
    List.Forall₂ p seen ((given.map items).getD []) := by
  rcases given with _ | v
  · cases h
    exact .nil
  · change readList read depth v = .ok seen at h
    cases v with
    | array items =>
      rw [readList] at h
      split at h
      · exact (JsonItems.forall₂_of_read h).imp fun _ _ => hp
      · cases h
    | _ => cases h

namespace NestedColumn

theorem map_label_fields : fields.map (·.label) = RecordKind.column.members := by
  rw [fields, List.map_append, List.map_map]
  rfl

theorem constraintsField_read_eq_ok {depth : Nat} {v : Json} {change : NestedColumn → NestedColumn}
    (h : constraintsField.read depth v = .ok change) :
    ∃ constraints, v.readOptional (InlineConstraints.read depth) = .ok constraints ∧
      change = fun c => { c with constraints? := constraints } := by
  obtain ⟨constraints, hv, hchange⟩ := Reading.bind_eq_ok_iff.mp h
  exact ⟨constraints, hv, (Except.ok.inj hchange).symm⟩

theorem forall_mem_fields {p : RecordField NestedColumn → Prop}
    (ha : ∀ a ∈ declared, p (a.field fun add c => { c with values := add c.values }))
    (hc : p constraintsField) : ∀ field ∈ fields, p field :=
  List.forall_mem_append.mpr ⟨List.forall_mem_map.mpr ha, List.forall_mem_singleton.mpr hc⟩

theorem sets_attribute (a : Attribute) : ∀ field ∈ fields,
    field.Sets a.label (fun c => List.lookup a c.values) none fun _ => a.form.read := by
  refine forall_mem_fields (fun b _ => Attribute.sets_field (fun _ _ => rfl) a b) ?_
  refine RecordField.Keeps.sets (fun depth v change hread r => ?_)
    (Attribute.label_ne "constraints" (by decide) a).symm
  obtain ⟨constraints, -, rfl⟩ := constraintsField_read_eq_ok hread
  rfl

theorem sets_constraints : ∀ field ∈ fields,
    field.Sets "constraints" (·.constraints?) none fun depth j =>
      j.readOptional (InlineConstraints.read depth) := by
  refine forall_mem_fields (fun b _ => ?_) ⟨?_, fun hne => absurd rfl hne⟩
  · refine RecordField.Keeps.sets (Attribute.keeps_field ?_ b)
      (Attribute.label_ne "constraints" (by decide) b)
    exact fun _ _ => rfl
  · intro _ depth v change hread r _
    obtain ⟨constraints, hv, rfl⟩ := constraintsField_read_eq_ok hread
    exact hv

theorem writtenAs_of_read {depth : Nat} {j : Json} {c : NestedColumn} (h : read depth j = .ok c) :
    c.WrittenAs j where
  tells := RecordKind.tells_of_reads fun a ha =>
    Json.reads_of_readRecord h (sets_attribute a) rfl map_label_fields
      RecordKind.column.members_nodup (List.mem_append_left _ (List.mem_map_of_mem ha))
  constraints := by
    have hreads := Json.reads_of_readRecord h sets_constraints rfl map_label_fields
      RecordKind.column.members_nodup (List.mem_append_right _ (List.mem_singleton_self _))
    exact hreads.rel_given InlineConstraints.writtenAs_of_read

end NestedColumn

/-! ## Changes -/

namespace Change

variable {depth : Nat} {j : Json} {c : Change}

theorem inOrder_eq_ok_iff {α : Type} {r : Reading α} {x : α} : inOrder r = .ok x ↔ r = .ok x := by
  cases r <;> simp [inOrder, Except.mapError]

/-- A change is read from an object that names its element somewhere, or from a list that starts
with the name. -/
theorem read_eq_ok_iff : read depth j = .ok c ↔ depth + 1 < Json.depthLimit ∧
    ((∃ members e, j = .object members ∧ elementOf (depth + 1) none members = .ok (some e) ∧
      members.readFields (fields e) (depth + 1) [] ⟨e, [], []⟩ = .ok c) ∨
    ∃ head rest e, j = .array (.item head rest) ∧ readElement head = .ok e ∧
      rest.readFault (depth + 1) = none ∧
      rest.readFields (depth + 1) (fields e) ⟨e, [], []⟩ = .ok c) := by
  constructor
  · intro h
    rcases j with _ | _ | _ | _ | (fault | ⟨head, rest⟩) | members | _
    case object =>
      simp only [read] at h
      split at h
      · next hdepth =>
        obtain ⟨_ | e, he, hfields⟩ := Reading.bind_eq_ok_iff.mp h
        · cases hfields
        · exact ⟨hdepth, .inl ⟨members, e, rfl, he, inOrder_eq_ok_iff.mp hfields⟩⟩
      · cases h
    case array.item =>
      simp only [read] at h
      split at h
      · next hdepth =>
        obtain ⟨e, he, hrest⟩ := Reading.bind_eq_ok_iff.mp h
        obtain ⟨_, hfault, hfields⟩ := Reading.bind_eq_ok_iff.mp hrest
        exact ⟨hdepth, .inr ⟨head, rest, e, rfl, he, JsonFault.check_eq_ok_iff.mp hfault,
          inOrder_eq_ok_iff.mp hfields⟩⟩
      · cases h
    case array.stop =>
      simp only [read] at h
      split at h
      · obtain ⟨_, -, hthrow⟩ := Reading.bind_eq_ok_iff.mp h
        cases hthrow
      · cases h
    all_goals cases h
  · rintro ⟨hdepth, ⟨members, e, rfl, he, hfields⟩ | ⟨head, rest, e, rfl, he, hfault, hfields⟩⟩
    · simp only [read, if_pos hdepth]
      exact Reading.bind_eq_ok_iff.mpr ⟨some e, he, inOrder_eq_ok_iff.mpr hfields⟩
    · simp only [read, if_pos hdepth]
      exact Reading.bind_eq_ok_iff.mpr ⟨e, he, Reading.bind_eq_ok_iff.mpr
        ⟨(), JsonFault.check_eq_ok_iff.mpr hfault, inOrder_eq_ok_iff.mpr hfields⟩⟩

theorem readElement_eq_ok {e : Element} (h : readElement j = .ok e) : j = .text e.name := by
  cases j with
  | text s =>
    rw [readElement] at h
    cases hs : Element.ofName? s with
    | none => simp [hs] at h
    | some e' =>
      simp only [hs, Except.ok.injEq] at h
      subst h
      rw [Element.ofName?] at hs
      have hname : e'.name = s := by simpa using List.find?_some hs
      rw [hname]
  | _ => cases h

theorem elementOf_some {e : Element} {found : Option Element} : ∀ {members : JsonMembers},
    elementOf depth (some e) members = .ok found → found = some e
  | .stop none, h => by cases h; rfl
  | .stop (some _), h => by cases h
  | .member none _ _, h => by cases h
  | .member (some key) value rest, h => by
    rw [elementOf] at h
    split at h
    · cases h
    · obtain ⟨_, -, hrest⟩ := Reading.bind_eq_ok_iff.mp h
      exact elementOf_some hrest

theorem lookup_of_elementOf {e : Element} : ∀ {members : JsonMembers},
    elementOf depth none members = .ok (some e) →
      members.toList.lookup elementKey = some (.text e.name)
  | .stop none, h => by cases h
  | .stop (some _), h => by cases h
  | .member none _ _, h => by cases h
  | .member (some key) value rest, h => by
    rw [elementOf] at h
    rw [JsonMembers.toList, List.lookup_cons]
    split at h
    · next hkey =>
      obtain ⟨e', he', hrest⟩ := Reading.bind_eq_ok_iff.mp h
      cases elementOf_some hrest
      rw [hkey, beq_self_eq_true, readElement_eq_ok he']
    · next hkey =>
      obtain ⟨_, -, hrest⟩ := Reading.bind_eq_ok_iff.mp h
      rw [beq_false_of_ne (Ne.symm hkey)]
      exact lookup_of_elementOf hrest

theorem map_label_fields (e : Element) :
    elementKey :: (fields e).map (·.label) = (RecordKind.change e).members := by
  rw [fields, List.map_append, List.map_map]
  cases h : e.nestsColumns <;>
    simp [RecordKind.members, RecordKind.labels, RecordKind.declared, h, columnsField]

theorem columnsField_read_eq_ok {v : Json} {change : Change → Change}
    (h : columnsField.read depth v = .ok change) :
    ∃ columns, v.readList NestedColumn.read depth = .ok columns ∧
      change = fun c => { c with nested := columns } := by
  obtain ⟨columns, hv, hchange⟩ := Reading.bind_eq_ok_iff.mp h
  exact ⟨columns, hv, (Except.ok.inj hchange).symm⟩

theorem forall_mem_fields {e : Element} {p : RecordField Change → Prop}
    (ha : ∀ a ∈ e.declared, p (a.field fun add c => { c with values := add c.values }))
    (hc : p columnsField) : ∀ field ∈ fields e, p field := by
  refine List.forall_mem_append.mpr ⟨List.forall_mem_map.mpr ha, ?_⟩
  split
  · exact List.forall_mem_singleton.mpr hc
  · exact List.forall_mem_nil p

theorem sets_attribute (e : Element) (a : Attribute) : ∀ field ∈ fields e,
    field.Sets a.label (fun c => List.lookup a c.values) none fun _ => a.form.read := by
  refine forall_mem_fields (fun b _ => Attribute.sets_field (fun _ _ => rfl) a b) ?_
  refine RecordField.Keeps.sets (fun depth v change hread r => ?_)
    (Attribute.label_ne "columns" (by decide) a).symm
  obtain ⟨columns, -, rfl⟩ := columnsField_read_eq_ok hread
  rfl

theorem sets_columns (e : Element) : ∀ field ∈ fields e,
    field.Sets "columns" nested [] fun depth j => j.readList NestedColumn.read depth := by
  refine forall_mem_fields (fun b _ => ?_) ⟨?_, fun hne => absurd rfl hne⟩
  · refine RecordField.Keeps.sets (Attribute.keeps_field ?_ b)
      (Attribute.label_ne "columns" (by decide) b)
    exact fun _ _ => rfl
  · intro _ depth v change hread r _
    obtain ⟨columns, hv, rfl⟩ := columnsField_read_eq_ok hread
    exact hv

theorem keeps_element (e : Element) : ∀ field ∈ fields e, field.Keeps element := by
  refine forall_mem_fields (fun b _ => Attribute.keeps_field ?_ b) fun depth v change hread r => ?_
  · exact fun _ _ => rfl
  · obtain ⟨columns, -, rfl⟩ := columnsField_read_eq_ok hread
    rfl

/-- The element is the one that the record names. -/
theorem element_of_read (h : read depth j = .ok c) :
    j.member? (RecordKind.change c.element).members elementKey = some (.text c.element.name) := by
  rcases (read_eq_ok_iff.mp h).2 with
    ⟨members, e, rfl, he, hc⟩ | ⟨head, rest, e, rfl, he, -, hc⟩
  · rw [members.view_eq_of_keeps (fun f hmem _ => keeps_element e f hmem) hc]
    exact lookup_of_elementOf he
  · rw [rest.view_eq_of_keeps (keeps_element e) hc, readElement_eq_ok he]
    rfl

theorem reads_of_read {β : Type} {label : String} {view : Change → β} {blank : β}
    {parse : JsonReader β} (h : read depth j = .ok c)
    (hf : ∀ field ∈ fields c.element, field.Sets label view blank parse)
    (hblank : view ⟨c.element, [], []⟩ = blank) (hl : label ∈ (fields c.element).map (·.label)) :
    Json.ReadsAs blank (parse (depth + 1)) (view c)
      (j.member? (RecordKind.change c.element).members label) := by
  have hnd := (RecordKind.change c.element).members_nodup
  rw [← map_label_fields] at hnd ⊢
  obtain ⟨hkey, hnd⟩ := List.nodup_cons.mp hnd
  rcases (read_eq_ok_iff.mp h).2 with
    ⟨members, e, rfl, -, hc⟩ | ⟨head, rest, e, rfl, -, -, hc⟩
  · have he : c.element = e := members.view_eq_of_keeps (fun f hmem _ => keeps_element e f hmem) hc
    rw [he] at hf hblank hl
    exact members.reads_of_readFields hf hl List.not_mem_nil hblank hc
  · have he : c.element = e := rest.view_eq_of_keeps (keeps_element e) hc
    have hne : label ≠ elementKey := fun heq => hkey (heq ▸ hl)
    rw [he] at hf hblank hnd ⊢
    rw [Json.member?, JsonItems.toList, List.zip_cons_cons, List.lookup_cons, beq_false_of_ne hne]
    exact rest.reads_of_readFields hf hnd hblank hc

theorem writtenAs_of_read (h : read depth j = .ok c) : c.WrittenAs j where
  element := element_of_read h
  tells := by
    have htells : (RecordKind.change c.element).Tells j
        (c.values.lookup c.element.name c.element.declared) := by
      refine RecordKind.tells_of_reads fun a ha =>
        reads_of_read h (sets_attribute c.element a) rfl ?_
      rw [fields, List.map_append, List.map_map]
      exact List.mem_append_left _ (List.mem_map_of_mem ha)
    rwa [Element.declared_eq] at htells
  columns := by
    rw [columns]
    split
    · next hnests =>
      have hmem : "columns" ∈ (fields c.element).map (·.label) :=
        List.mem_map.mpr ⟨columnsField, by simp [fields, hnests], rfl⟩
      exact (reads_of_read h (sets_columns c.element) rfl hmem).forall₂_items
        NestedColumn.writtenAs_of_read
    · exact .nil

end Change

end MigrationAudit
