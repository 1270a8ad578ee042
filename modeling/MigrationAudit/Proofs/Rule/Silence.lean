import MigrationAudit.Check.ColumnDeclaration
import MigrationAudit.Check.Portability

/-!
# Rules that find nothing

Rules tried in contexts find nothing exactly if every one of them holds of the value of its context
(`Binding.runAll_eq_nil_iff`).  So a check of nested columns or of fields that finds nothing tells
which rules these keep.  What rules do find in a change is an issue for each of them that is broken
(`Binding.mem_runAll_iff`), so one rule tried in several contexts tells in which it is
(`Binding.runAll_each`).
-/

namespace MigrationAudit

namespace Binding

theorem mapError_ok {α : Type} (f : Failure → Failure) (x : α) :
    (Except.ok x : Except Failure α).mapError f = .ok x := rfl

theorem mapError_error {α : Type} (f : Failure → Failure) (failure : Failure) :
    (Except.error failure : Except Failure α).mapError f = .error (f failure) := rfl

theorem run_eq_nil_iff {b : Binding} :
    b.run = .ok [] ↔ ∃ value, b.context.value = .ok value ∧ b.rule.holds value = .ok true := by
  unfold run
  rcases hv : b.context.value with failure | value
  · simp [bind, Except.bind]
  · rcases hh : b.rule.holds value with failure | valid
    · simp [bind, Except.bind, mapError_error, hh]
    · cases valid with
      | true => simp [bind, Except.bind, mapError_ok, hh, pure, Except.pure]
      | false =>
        rcases hi : b.context.issue (b.rule.cause b.context.field value) with failure | issue <;>
          simp [bind, Except.bind, mapError_ok, hh, pure, Except.pure, hi]

theorem runAll_cons (b : Binding) (bs : List Binding) :
    runAll (b :: bs) = do
      let issues ← b.run
      let rest ← runAll bs
      return issues ++ rest := rfl

theorem runAll_eq_nil_iff : ∀ {bs : List Binding},
    runAll bs = .ok [] ↔ ∀ b ∈ bs, ∃ value, b.context.value = .ok value ∧
      b.rule.holds value = .ok true
  | [] => by simp [runAll]
  | b :: bs => by
    have ih := @runAll_eq_nil_iff bs
    rw [List.forall_mem_cons, ← run_eq_nil_iff, ← ih, runAll_cons]
    rcases hb : b.run with failure | issues
    · simp [bind, Except.bind]
    · rcases runAll bs with failure | rest <;> simp [bind, Except.bind, pure, Except.pure]

theorem run_of_broken {b : Binding} {place : ChangePlace} {value : Option String}
    (hplace : b.context.place? = some place) (hvalue : b.context.value = .ok value)
    (hbroken : b.rule.holds value = .ok false) :
    b.run = .ok [Issue.ofChange place (some b.context.field)
      (b.rule.cause b.context.field value)] := by
  simp only [run, hvalue, bind, Except.bind, hbroken, mapError_ok, Context.issue, hplace]
  rfl

/-- A rule that is tried in a change finds an issue of the change if it is broken, and no other. -/
theorem mem_run_iff {b : Binding} {place : ChangePlace} {issues : List Issue} {i : Issue}
    (hplace : b.context.place? = some place) (h : b.run = .ok issues) :
    i ∈ issues ↔ ∃ value, b.context.value = .ok value ∧ b.rule.holds value = .ok false ∧
      i = Issue.ofChange place (some b.context.field) (b.rule.cause b.context.field value) := by
  rcases hvalue : b.context.value with failure | value
  · simp [run, hvalue, bind, Except.bind] at h
  · rcases hholds : b.rule.holds value with failure | valid
    · simp [run, hvalue, hholds, bind, Except.bind, mapError_error] at h
    · cases valid with
      | true =>
        rw [run_eq_nil_iff.mpr ⟨value, hvalue, hholds⟩] at h
        obtain rfl := Except.ok.inj h
        simp [hholds]
      | false =>
        rw [run_of_broken hplace hvalue hholds] at h
        obtain rfl := Except.ok.inj h
        simp [hholds]

theorem mem_runAll_iff {place : ChangePlace} {i : Issue} : ∀ {bs : List Binding}
    {found : List Issue}, (∀ b ∈ bs, b.context.place? = some place) → runAll bs = .ok found →
      (i ∈ found ↔ ∃ b ∈ bs, ∃ value, b.context.value = .ok value ∧
        b.rule.holds value = .ok false ∧
        i = Issue.ofChange place (some b.context.field) (b.rule.cause b.context.field value))
  | [], found, _, h => by
    obtain rfl := Except.ok.inj h
    simp
  | b :: bs, found, hplace, h => by
    rw [List.forall_mem_cons] at hplace
    rw [runAll_cons] at h
    rcases hrun : b.run with failure | issues
    · simp [hrun, bind, Except.bind] at h
    · rcases hrest : runAll bs with failure | rest
      · simp [hrun, hrest, bind, Except.bind] at h
      · simp only [hrun, hrest, bind, Except.bind, pure, Except.pure, Except.ok.injEq] at h
        rw [← h, List.mem_append, mem_run_iff hplace.1 hrun, mem_runAll_iff hplace.2 hrest]
        simp only [List.mem_cons, exists_eq_or_imp]

theorem runAll_append_of_kept {bs' : List Binding} : ∀ {bs : List Binding},
    (∀ b ∈ bs, b.run = .ok []) → runAll (bs ++ bs') = runAll bs'
  | [], _ => rfl
  | b :: bs, h => by
    rw [List.forall_mem_cons] at h
    rw [List.cons_append, runAll_cons, h.1, runAll_append_of_kept h.2]
    cases runAll bs' <;> rfl

theorem runAll_each {α : Type} {rule : Rule} {context : α → Context} {broken : α → Bool}
    {issue : α → Issue} : ∀ {xs : List α},
    (∀ x ∈ xs, (⟨rule, context x⟩ : Binding).run =
      .ok (if broken x = true then [issue x] else [])) →
        runAll (each rule (xs.map context)) = .ok ((xs.filter broken).map issue)
  | [], _ => rfl
  | x :: xs, h => by
    rw [List.forall_mem_cons] at h
    have ih := runAll_each h.2
    rw [each] at ih
    rw [each, List.map_cons, List.map_cons, runAll_cons, h.1, ih]
    by_cases hx : broken x = true
    · rw [if_pos hx, List.filter_cons_of_pos hx]
      rfl
    · rw [if_neg hx, List.filter_cons_of_neg hx]
      rfl

end Binding

/-- Under the label of an attribute stands its value. -/
theorem Change.lookup_label (c : Change) (a : Attribute) : c.lookup a.label = .ok (c.text? a) := by
  unfold Change.lookup AttributeValues.lookup
  rw [Attribute.ofLabel?_label]
  rfl

namespace Check

variable {place : ChangePlace}

/-- A rule on fields that finds nothing holds of the value of each. -/
theorem holds_of_onFields {rule : Rule} (attributes : List Attribute)
    (h : onFields rule (labels attributes) place = .ok []) {a : Attribute} (ha : a ∈ attributes) :
    rule.holds (place.change.text? a) = .ok true := by
  have hmem : (⟨rule, .ofSubject (.change place) a.label⟩ : Binding) ∈
      Binding.each rule ((labels attributes).map (Context.ofSubject (.change place))) :=
    List.mem_map_of_mem (List.mem_map_of_mem (List.mem_map_of_mem ha))
  obtain ⟨value, hv, hh⟩ := Binding.runAll_eq_nil_iff.mp h _ hmem
  obtain rfl : place.change.text? a = value :=
    Except.ok.inj ((place.change.lookup_label a).symm.trans hv)
  exact hh

theorem holds_of_newType {rule : Rule} (h : newType rule place = .ok []) :
    rule.holds (place.change.text? .newDataType) = .ok true :=
  holds_of_onFields [.newDataType] h List.mem_cons_self

/-- If the check of nested columns finds nothing, what it tries on the values of a column holds. -/
theorem holds_of_columns {bounds : ColumnBounds} (h : columns bounds place = .ok [])
    {n : NestedColumn} (hn : n ∈ place.change.columns) {rule : Rule} {a : Attribute}
    (hb : ⟨rule, columnContext place n a⟩ ∈ columnBindings bounds place n) :
    rule.holds (n.text? a) = .ok true := by
  unfold columns at h
  rcases hr : Binding.runAll (place.change.columns.flatMap (columnBindings bounds place)) with
    failure | found
  · simp [hr, bind, Except.bind] at h
  · simp only [hr, bind, Except.bind, pure, Except.pure, Except.ok.injEq,
      List.append_eq_nil_iff] at h
    rw [h.2] at hr
    obtain ⟨value, hv, hh⟩ :=
      Binding.runAll_eq_nil_iff.mp hr _ (List.mem_flatMap.mpr ⟨n, hn, hb⟩)
    obtain rfl : n.text? a = value := Except.ok.inj hv
    exact hh

end Check

end MigrationAudit
