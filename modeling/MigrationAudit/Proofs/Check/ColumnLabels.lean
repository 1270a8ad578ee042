import MigrationAudit.Proofs.Changelog.Plain
import MigrationAudit.Proofs.Check.Places

/-!
# Labels in issues of nested columns

The rules on nested columns are tried on values that are handed to them with a label.  The label is
one under which the column or its inline constraints have just this value, except for the tablespace
of a primary key, which goes by a label that no record carries (`Check.mem_columnBindings`).  So an
issue says under which label the value at fault is found unless it is about such a tablespace, and
all issues of a change do exactly if none of its columns declares one (`Check.issues_readable_iff`).
-/

namespace MigrationAudit

/-! ## Values under their labels -/

theorem AttributeValues.lookup_label (values : AttributeValues) (owner : String)
    (allowed : List Attribute) (a : Attribute) : values.lookup owner allowed a.label =
      .ok ((values.value? allowed a).map AttributeValue.toText) := by
  rw [lookup, Attribute.ofLabel?_label]

theorem NestedColumn.lookup_label (c : NestedColumn) (a : Attribute) :
    c.lookup a.label = .ok (c.text? a) := c.values.lookup_label _ _ a

theorem InlineConstraints.lookup_label (k : InlineConstraints) (a : Attribute) :
    k.lookup a.label = .ok (k.text? a) := k.values.lookup_label _ _ a

/-- A nested column, and its inline constraints if it has some. -/
def NestedColumn.subjects (c : NestedColumn) : List Subject :=
  .column c :: c.constraints?.toList.map .constraints

theorem NestedColumn.constraints_mem_subjects {c : NestedColumn} {k : InlineConstraints}
    (hk : c.constraints? = some k) : .constraints k ∈ c.subjects := by
  rw [subjects, hk]
  exact List.mem_cons_of_mem _ (List.mem_singleton_self (Subject.constraints k))

/-- The value of the context is the one that its subject has under the field. -/
def Context.Readable (c : Context) : Prop := c.subject.lookup c.field = c.value

namespace Check

/-- The label by which the rules call the tablespace of a primary key. -/
def tablespaceLabel : String := "privateKeyTablespace"

theorem label_ne_tablespaceLabel (a : Attribute) : a.label ≠ tablespaceLabel := by
  intro h
  have unknown : Attribute.ofLabel? tablespaceLabel = none := by decide
  rw [← h, Attribute.ofLabel?_label] at unknown
  cases unknown

theorem lookup_tablespaceLabel {c : NestedColumn} {s : Subject} (hs : s ∈ c.subjects)
    (value : Option String) : s.lookup tablespaceLabel ≠ .ok value := by
  rcases List.mem_cons.mp hs with rfl | hs
  · exact nofun
  · obtain ⟨k, -, rfl⟩ := List.mem_map.mp hs
    exact nofun

section Bindings

variable {bounds : ColumnBounds} {place : ChangePlace} {c : NestedColumn} {k : InlineConstraints}

/-- The rule on the tablespace of a primary key. -/
def tablespaceBinding (place : ChangePlace) (k : InlineConstraints) : Binding :=
  ⟨.notPermitted, constraintContext place k tablespaceLabel .primaryKeyTablespace⟩

/-- The context is one of the column, and its value is found there under its own label. -/
structure ReadableIn (c : NestedColumn) (x : Context) : Prop where
  subject : x.subject ∈ c.subjects
  readable : x.Readable
  label : x.field ≠ tablespaceLabel

theorem readableIn_columnContext (place : ChangePlace) (c : NestedColumn) (a : Attribute) :
    ReadableIn c (columnContext place c a) :=
  ⟨List.mem_cons_self, c.lookup_label a, label_ne_tablespaceLabel a⟩

theorem readableIn_constraintContext (hk : c.constraints? = some k) (place : ChangePlace)
    (a : Attribute) : ReadableIn c (constraintContext place k a.label a) :=
  ⟨NestedColumn.constraints_mem_subjects hk, k.lookup_label a, label_ne_tablespaceLabel a⟩

theorem mem_constraintBindings (hk : c.constraints? = some k) {b : Binding}
    (hb : b ∈ constraintBindings bounds place k) :
    ReadableIn c b.context ∨ b = tablespaceBinding place k := by
  have names : ∀ rule, ∀ b ∈ Binding.each rule
      ([Attribute.uniqueConstraintName, .foreignKeyName, .primaryKeyName].map fun a =>
        constraintContext place k a.label a), ReadableIn c b.context := by
    intro rule
    rw [Binding.each, List.forall_mem_map, List.forall_mem_map]
    exact fun a _ => readableIn_constraintContext hk place a
  simp only [constraintBindings, List.mem_append] at hb
  rcases hb with ((hb | hb) | hb) | hb
  · exact .inl (names _ b hb)
  · exact .inl (names _ b hb)
  · exact .inl (names _ b hb)
  · simp only [Binding.each, List.map_cons, List.map_nil, List.mem_cons, List.not_mem_nil,
      or_false] at hb
    rcases hb with rfl | rfl | rfl
    · exact .inr rfl
    · exact .inl (readableIn_constraintContext hk place .referencedTableCatalogName)
    · exact .inl (readableIn_constraintContext hk place .referencedTableSchemaName)

/-- What a rule is tried on is found under its label, or it is the tablespace of a primary key. -/
theorem mem_columnBindings {b : Binding} (hb : b ∈ columnBindings bounds place c) :
    ReadableIn c b.context ∨
      ∃ k, c.constraints? = some k ∧ b = tablespaceBinding place k := by
  simp only [columnBindings, List.mem_append, List.mem_cons, List.not_mem_nil, or_false] at hb
  rcases hb with ((hb | hb) | hb) | hb
  · rcases hb with rfl | rfl | rfl | rfl
    · exact .inl (readableIn_columnContext place c .name)
    · exact .inl (readableIn_columnContext place c .name)
    · exact .inl (readableIn_columnContext place c .name)
    · exact .inl (readableIn_columnContext place c .type)
  · obtain ⟨x, hx, rfl⟩ := List.mem_map.mp hb
    obtain ⟨a, -, rfl⟩ := List.mem_map.mp hx
    exact .inl (readableIn_columnContext place c a)
  · rcases hb with rfl | rfl
    · exact .inl (readableIn_columnContext place c .type)
    · exact .inl (readableIn_columnContext place c .type)
  · obtain ⟨k, hk, hb⟩ := List.mem_flatMap.mp hb
    have hk := Option.mem_toList.mp hk
    exact (mem_constraintBindings hk hb).imp_right fun hb => ⟨k, hk, hb⟩

theorem tablespaceBinding_mem (bounds : ColumnBounds) (place : ChangePlace)
    (hk : c.constraints? = some k) :
    tablespaceBinding place k ∈ columnBindings bounds place c := by
  refine List.mem_append_right _ (List.mem_flatMap.mpr ⟨k, by simp [hk], ?_⟩)
  exact List.mem_append_right _ List.mem_cons_self

end Bindings

end Check

/-! ## Issues -/

/-- The issue is what a rule has against the value that a nested column of the change, or the inline
constraints of one, have under the label that the issue names. -/
def Issue.Readable (place : ChangePlace) (i : Issue) : Prop :=
  ∃ c ∈ place.change.columns, ∃ s ∈ c.subjects, ∃ rule : Rule, ∃ label value,
    s.lookup label = .ok value ∧ rule.holds value = .ok false ∧
      i = Issue.ofChange place (some label) (rule.cause label value)

theorem Issue.Readable.field_ne {place : ChangePlace} {i : Issue} (h : i.Readable place) :
    i.field ≠ some Check.tablespaceLabel := by
  obtain ⟨c, -, s, hs, rule, label, value, hlookup, -, rfl⟩ := h
  intro hfield
  obtain rfl : label = Check.tablespaceLabel := Option.some.inj hfield
  exact Check.lookup_tablespaceLabel hs value hlookup

namespace Check

variable {bounds : ColumnBounds} {place : ChangePlace} {found : List Issue} {i : Issue}

theorem place?_of_mem_bindings (bounds : ColumnBounds) (place : ChangePlace) :
    ∀ b ∈ place.change.columns.flatMap (columnBindings bounds place),
      b.context.place? = some place := by
  intro b hb
  obtain ⟨c, -, hb⟩ := List.mem_flatMap.mp hb
  exact place?_of_mem_columnBindings bounds place c b hb

/-- An issue of the rules on columns is readable, or it reports the tablespace of a primary key. -/
theorem readable_or_tablespace
    (h : Binding.runAll (place.change.columns.flatMap (columnBindings bounds place)) = .ok found)
    (hi : i ∈ found) : i.Readable place ∨ i.field = some tablespaceLabel ∧
      ∃ c ∈ place.change.columns, ∃ k, c.constraints? = some k ∧
        (k.text? .primaryKeyTablespace).isSome = true := by
  obtain ⟨b, hb, value, hvalue, hholds, rfl⟩ :=
    (Binding.mem_runAll_iff (place?_of_mem_bindings bounds place) h).mp hi
  obtain ⟨c, hc, hb⟩ := List.mem_flatMap.mp hb
  rcases mem_columnBindings hb with hread | ⟨k, hk, rfl⟩
  · exact .inl ⟨c, hc, _, hread.subject, b.rule, _, value, hread.readable.trans hvalue, hholds, rfl⟩
  · obtain rfl : k.text? .primaryKeyTablespace = value := Except.ok.inj hvalue
    refine .inr ⟨rfl, c, hc, k, hk, ?_⟩
    simpa [tablespaceBinding, Rule.holds, ← Option.not_isSome_iff_eq_none] using hholds

theorem exists_tablespace_issue
    (h : Binding.runAll (place.change.columns.flatMap (columnBindings bounds place)) = .ok found)
    {c : NestedColumn} (hc : c ∈ place.change.columns) {k : InlineConstraints}
    (hk : c.constraints? = some k) {value : String}
    (hvalue : k.text? .primaryKeyTablespace = some value) :
    ∃ i ∈ found, i.field = some tablespaceLabel := by
  refine ⟨_, (Binding.mem_runAll_iff (place?_of_mem_bindings bounds place) h).mpr
    ⟨tablespaceBinding place k, List.mem_flatMap.mpr ⟨c, hc, tablespaceBinding_mem bounds place hk⟩,
      some value, congrArg Except.ok hvalue, rfl, rfl⟩, rfl⟩

/-- What the rules on nested columns find can be looked up under the label that the issue names,
unless it is the tablespace of a primary key, and so can all that they find exactly if no column
declares such a tablespace.  Likewise every value that they are given is the one under its label, the
tablespace apart. -/
theorem issues_readable_iff {issues : List Issue} (h : columns bounds place = .ok issues) :
    (∀ c ∈ place.change.columns, ∀ b ∈ columnBindings bounds place c,
      b.context.subject ∈ c.subjects ∧
        (b.context.Readable ↔ b.context.field ≠ tablespaceLabel)) ∧
    ∃ found,
      Binding.runAll (place.change.columns.flatMap (columnBindings bounds place)) = .ok found ∧
      issues = (place.change.columns.filterMap defaultCause?).map
        (Issue.ofChange place (some Attribute.defaultValue.label)) ++ found ∧
      (∀ i ∈ found, i.Readable place ↔ i.field ≠ some tablespaceLabel) ∧
      ((∀ i ∈ found, i.Readable place) ↔ ∀ c ∈ place.change.columns, ∀ k,
        c.constraints? = some k → k.text? .primaryKeyTablespace = none) := by
  refine ⟨fun c _ b hb => ?_, ?_⟩
  · rcases mem_columnBindings hb with hread | ⟨k, hk, rfl⟩
    · exact ⟨hread.subject, iff_of_true hread.readable hread.label⟩
    · have hsubject : (tablespaceBinding place k).context.subject ∈ c.subjects :=
        NestedColumn.constraints_mem_subjects hk
      exact ⟨hsubject, iff_of_false (lookup_tablespaceLabel hsubject _) (not_not_intro rfl)⟩
  · unfold columns at h
    rcases hrun : Binding.runAll (place.change.columns.flatMap (columnBindings bounds place)) with
      failure | found
    · simp [hrun, bind, Except.bind] at h
    simp only [hrun, bind, Except.bind, pure, Except.pure, Except.ok.injEq] at h
    refine ⟨found, rfl, h.symm, fun i hi => ⟨Issue.Readable.field_ne, fun hfield => ?_⟩, ?_, ?_⟩
    · exact (readable_or_tablespace hrun hi).resolve_right fun hother => hfield hother.1
    · intro hall c hc k hk
      refine Option.eq_none_iff_forall_ne_some.mpr fun value hvalue => ?_
      obtain ⟨i, hi, hfield⟩ := exists_tablespace_issue hrun hc hk hvalue
      exact (hall i hi).field_ne hfield
    · intro hnone i hi
      refine (readable_or_tablespace hrun hi).resolve_right ?_
      rintro ⟨-, c, hc, k, hk, hvalue⟩
      simp [hnone c hc k hk] at hvalue

/-- Three values that rules are broken by, of a column and of its constraints, and each is found
under its label. -/
theorem issues_readable_of_no_tablespace :
    let c : NestedColumn := ⟨[(.name, .text "A"), (.type, .text "INTEGER"), (.value, .text "1")],
      some ⟨[(.foreignKeyName, .text "FK")]⟩⟩
    let place := ChangePlace.alone (.ofTexts .createTable [(.tableName, "t")] [c])
    ∃ issues, columns ⟨1, 30, 31⟩ place = .ok issues ∧
      issues.map (·.field) = [some "name", some "value", some "foreignKeyName"] ∧
      ∀ i ∈ issues, i.Readable place := by
  intro c place
  have h : columns ⟨1, 30, 31⟩ place = .ok
      [.ofChange place (some "name") (.notLowerCase (some "A")),
        .ofChange place (some "value") (.notPermitted "value"),
        .ofChange place (some "foreignKeyName") (.notLowerCase (some "FK"))] := by rfl
  obtain ⟨-, found, -, hfound, -, hall⟩ := issues_readable_iff h
  refine ⟨_, h, rfl, hfound ▸ hall.mpr fun n hn k hk => ?_⟩
  obtain rfl := List.mem_singleton.mp hn
  obtain rfl := Option.some.inj hk
  rfl

/-- The tablespace of a primary key is reported under a label that neither the column nor its
constraints know. -/
theorem issue_unreadable_of_tablespace :
    let k : InlineConstraints := ⟨[(.primaryKeyTablespace, .text "ts")]⟩
    let c : NestedColumn := ⟨[(.name, .text "a")], some k⟩
    let place := ChangePlace.alone (.ofTexts .createTable [(.tableName, "t")] [c])
    let i := Issue.ofChange place (some "privateKeyTablespace") (.notPermitted "privateKeyTablespace")
    columns ⟨1, 30, 31⟩ place = .ok [i] ∧ ¬ i.Readable place ∧
      c.lookup "privateKeyTablespace" =
        .error (.unknownAttribute "column" "privateKeyTablespace") ∧
      k.lookup "privateKeyTablespace" =
        .error (.unknownAttribute "constraints" "privateKeyTablespace") ∧
      k.lookup "primaryKeyTablespace" = .ok (some "ts") := by
  intro k c place i
  exact ⟨by rfl, fun h => h.field_ne rfl, by rfl, by rfl, by rfl⟩

end Check

end MigrationAudit
