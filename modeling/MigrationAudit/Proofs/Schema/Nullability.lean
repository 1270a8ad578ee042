import MigrationAudit.Proofs.Schema.Distinct
import MigrationAudit.Proofs.Schema.Typing

/-!
# Null values in a schema

Whether the column of an identity may be null is decided by the last change that declares or drops
the column, renames it or another one to it, or says so (`Change.Decides`); the other changes leave
it as it was (`Schema.Columnar.nullable?_replay_of_not_decides`).  A rename may bring a column under
an identity that is stored already, and then the first of them counts.
-/

namespace MigrationAudit

/-- Whether the first column of an identity may be null, if there is such a column. -/
def nullableIn (t n : String) (cs : List Column) : Option Bool :=
  (cs.find? (·.pair = (t, n))).map (·.nullable)

section Columns

variable {t n : String} {cs : List Column}

theorem nullableIn_placedIn (c : Column) : ∀ cs : List Column,
    nullableIn t n (c.placedIn cs) =
      if c.pair = (t, n) then some c.nullable else nullableIn t n cs
  | [] => by
    unfold Column.placedIn nullableIn
    split <;> simp [*]
  | d :: cs => by
    have ih := nullableIn_placedIn c cs
    unfold Column.placedIn
    by_cases hd : d.pair = c.pair
    · by_cases hc : c.pair = (t, n)
      · simp [nullableIn, identity_eq_iff, hd, hc]
      · simp [nullableIn, identity_eq_iff, hd, hc]
    · rw [if_neg (mt identity_eq_iff.mp hd)]
      by_cases hdt : d.pair = (t, n)
      · have hc : c.pair ≠ (t, n) := fun h => hd (hdt.trans h.symm)
        simp [nullableIn, hdt, hc]
      · simpa [nullableIn, hdt] using ih

/-- After columns have been moved, the first one that arrives at the identity counts. -/
theorem nullableIn_map {f : Column → Column} {g : String × String → String × String}
    (hp : ∀ c, (f c).pair = g c.pair) (hn : ∀ c, (f c).nullable = c.nullable) :
    nullableIn t n (cs.map f) = (cs.find? (g ·.pair = (t, n))).map (·.nullable) := by
  unfold nullableIn
  rw [List.find?_map, Option.map_map]
  simp [Function.comp_def, hp, hn]

theorem nullableIn_setNullable {t' n' : String} {nullable : Bool} :
    nullableIn t n (cs.map (Column.updated (.column t' n') fun c => { c with nullable })) =
      if (t', n') = (t, n) then (nullableIn t n cs).map fun _ => nullable
      else nullableIn t n cs := by
  have hp : ∀ c : Column,
      (Column.updated (.column t' n') (fun c => { c with nullable }) c).pair = c.pair :=
    pair_updated_of_keeps fun c => rfl
  unfold nullableIn
  rw [List.find?_map, Option.map_map]
  simp only [Function.comp_def, hp]
  have hm : ∀ {c : Column}, c.pair = (t, n) →
      (c.identity.matches (.column t' n') = true ↔ (t', n') = (t, n)) := by
    intro c hc
    rw [identity_matches_column, ← hc]
    simp [Column.pair, eq_comm]
  split
  · next h =>
    rw [Option.map_map]
    refine Option.map_congr fun c hc => ?_
    have hpair : c.pair = (t, n) := by simpa using List.find?_some hc
    show (Column.updated _ _ c).nullable = nullable
    rw [Column.updated, if_pos ((hm hpair).mpr h)]
  · next h =>
    refine Option.map_congr fun c hc => ?_
    have hpair : c.pair = (t, n) := by simpa using List.find?_some hc
    show (Column.updated _ _ c).nullable = c.nullable
    rw [Column.updated, if_neg (mt (hm hpair).mp h)]

/-- Either all columns of the identity are dropped or none. -/
theorem nullableIn_filter {p : Column → Bool} {dropped : Prop} [Decidable dropped]
    (hp : ∀ c : Column, c.pair = (t, n) → (p c = true ↔ ¬ dropped)) :
    nullableIn t n (cs.filter p) = if dropped then none else nullableIn t n cs := by
  unfold nullableIn
  rw [List.find?_filter]
  split
  · next h =>
    rw [Option.map_eq_none_iff, List.find?_eq_none]
    intro c _ hc
    simp only [decide_eq_true_eq] at hc
    exact (hp c hc.2).mp hc.1 h
  · next h =>
    congr 2
    funext c
    by_cases hc : c.pair = (t, n)
    · simp [hc, (hp c hc).mpr h]
    · simp [hc]

end Columns

/-! ## Edits -/

namespace Edit

variable {t n : String} {e : Edit} {cs : List Column}

/-- The edit declares or drops the column, says whether it may be null, or renames it or another
column to it. -/
def Decides (t n : String) : Edit → Prop
  | .declare t' n' _ _ => (t', n') = (t, n)
  | .renameTable old new => old = t ∨ new = t
  | .renameColumn t' old new => t' = t ∧ (old = n ∨ new = n)
  | .setNullable t' n' _ => (t', n') = (t, n)
  | .dropTable t' => t' = t
  | .dropColumn t' n' => (t', n') = (t, n)
  | _ => False

/-- Whether the first column of an identity may be null after an edit. -/
def nullableAfter (t n : String) : Edit → List Column → Option Bool
  | .declare t' n' nullable _, cs => if (t', n') = (t, n) then some nullable else nullableIn t n cs
  | .renameTable old new, cs =>
    (cs.find? (tableRenamed old new ·.pair = (t, n))).map (·.nullable)
  | .renameColumn t' old new, cs =>
    (cs.find? (columnRenamed t' old new ·.pair = (t, n))).map (·.nullable)
  | .setNullable t' n' nullable, cs =>
    if (t', n') = (t, n) then (nullableIn t n cs).map fun _ => nullable else nullableIn t n cs
  | .dropTable t', cs => if t' = t then none else nullableIn t n cs
  | .dropColumn t' n', cs => if (t', n') = (t, n) then none else nullableIn t n cs
  | _, cs => nullableIn t n cs

theorem nullableIn_onColumns (naming : Naming) (drawn : Nat) :
    nullableIn t n (e.onColumns naming drawn cs) = e.nullableAfter t n cs := by
  have updated : ∀ {q : Query} {f : Column → Column}, (∀ c, (f c).nullable = c.nullable) →
      ∀ c, (Column.updated q f c).nullable = c.nullable := by
    intro q f h c
    unfold Column.updated
    split
    · exact h c
    · rfl
  -- an update that keeps identities and says nothing about null values
  have keep : ∀ {q : Query} {f : Column → Column}, (∀ c, (f c).pair = c.pair) →
      (∀ c, (f c).nullable = c.nullable) →
        nullableIn t n (cs.map (Column.updated q f)) = nullableIn t n cs :=
    fun hp hn => nullableIn_map (g := id) (pair_updated_of_keeps hp) (updated hn)
  cases e with
  | declare t' n' nullable declaration => exact nullableIn_placedIn _ cs
  | renameTable old new => exact nullableIn_map (pair_renamedTable old new) (updated fun c => rfl)
  | renameColumn t' old new =>
    exact nullableIn_map (pair_renamedColumn t' old new) (updated fun c => rfl)
  | setNullable t' n' nullable => exact nullableIn_setNullable
  | dropTable t' =>
    refine nullableIn_filter fun c hc => ?_
    obtain ⟨rfl, rfl⟩ := Prod.mk.inj hc
    rw [Bool.not_eq_true', ← Bool.not_eq_true, identity_matches_table, eq_comm]
  | dropColumn t' n' =>
    refine nullableIn_filter fun c hc => ?_
    obtain ⟨rfl, rfl⟩ := Prod.mk.inj hc
    rw [Bool.not_eq_true', ← Bool.not_eq_true, identity_matches_column, Prod.mk.injEq,
      eq_comm (a := t'), eq_comm (a := n')]
  | _ => exact keep (fun c => rfl) fun c => rfl

theorem nullableAfter_of_not_decides (h : ¬ e.Decides t n) :
    e.nullableAfter t n cs = nullableIn t n cs := by
  cases e with
  | declare t' n' nullable declaration => exact if_neg h
  | setNullable t' n' nullable => exact if_neg h
  | dropTable t' => exact if_neg h
  | dropColumn t' n' => exact if_neg h
  | renameTable old new =>
    simp only [Decides, not_or] at h
    simp only [nullableAfter, nullableIn]
    congr 2
    funext c
    unfold tableRenamed
    split
    · next ho =>
      have hc : c.pair.1 ≠ t := fun hct => h.1 (ho.symm.trans hct)
      simp [Prod.ext_iff, hc, h.2]
    · rfl
  | renameColumn t' old new =>
    simp only [Decides, not_and, not_or] at h
    simp only [nullableAfter, nullableIn]
    congr 2
    funext c
    unfold columnRenamed
    split
    · next ho =>
      rw [ho, decide_eq_decide, Prod.mk.injEq, Prod.mk.injEq]
      exact ⟨fun h' => absurd h'.2 (h h'.1).2, fun h' => absurd h'.2 (h h'.1).1⟩
    · rfl
  | _ => rfl

theorem not_decides_of_constrains (h : e.constrains = true) : ¬ e.Decides t n := by
  cases e <;> first | exact id | simp [constrains] at h

end Edit

/-! ## Scripts -/

namespace Schema

/-- Whether the column of an identity may be null, if it is known. -/
def nullable? (s : Schema) (t n : String) : Option Bool := (s.store.column? t n).map (·.nullable)

variable (naming : Naming) {s : Schema} {t n : String}

theorem Columnar.nullable?_eq (h : s.Columnar) : s.nullable? t n = nullableIn t n s.columns := by
  unfold nullable? nullableIn
  rw [h.column?_eq]
  congr 2
  funext c
  refine Bool.eq_iff_iff.mpr ?_
  simp [Column.pair]

theorem Columnar.nullable?_applyEdit (h : s.Columnar) (e : Edit) :
    (s.applyEdit naming e).nullable? t n = e.nullableAfter t n s.columns := by
  rw [(h.applyEdit naming e).nullable?_eq, h.columns_applyEdit, Edit.nullableIn_onColumns]

theorem Columnar.nullable?_applyEdits_of_not_decides : ∀ {es : List Edit} {s : Schema}, s.Columnar →
    (∀ e ∈ es, ¬ e.Decides t n) → (s.applyEdits naming es).nullable? t n = s.nullable? t n
  | [], _, _, _ => rfl
  | e :: es, s, h, hes => by
    have he : (s.applyEdit naming e).nullable? t n = s.nullable? t n := by
      rw [h.nullable?_applyEdit, h.nullable?_eq,
        Edit.nullableAfter_of_not_decides (hes e List.mem_cons_self)]
    have ih := Columnar.nullable?_applyEdits_of_not_decides (h.applyEdit naming e)
      fun f hf => hes f (List.mem_cons_of_mem e hf)
    exact ih.trans he

/-- Of the columns declared one after the other the last one of a name counts. -/
theorem Columnar.nullable?_declares : ∀ {ns : List NestedColumn} {s : Schema}, s.Columnar →
    (∀ x ∈ ns, x.name?.isSome) →
      (s.applyEdits naming ((NestedColumn.leading ns).map fun p =>
          .declare t p.1 p.2.nullable (p.2.text? .type))).nullable? t n =
        ((ns.reverse.find? (·.name? == some n)).map (·.nullable)).or (s.nullable? t n)
  | [], _, _, _ => rfl
  | x :: ns, s, h, hns => by
    obtain ⟨name, hname⟩ := Option.isSome_iff_exists.mp (hns x List.mem_cons_self)
    have hx := h.nullable?_applyEdit naming (t := t) (n := n)
      (.declare t name x.nullable (x.text? .type))
    have ih := Columnar.nullable?_declares
      (h.applyEdit naming (.declare t name x.nullable (x.text? .type)))
      fun y hy => hns y (List.mem_cons_of_mem x hy)
    have hleading : NestedColumn.leading (x :: ns) = (name, x) :: NestedColumn.leading ns := by
      rw [NestedColumn.leading, hname]
    rw [hleading, List.map_cons]
    refine ih.trans ?_
    rw [hx, List.reverse_cons, List.find?_append]
    cases ns.reverse.find? (·.name? == some n) with
    | some y => rfl
    | none => by_cases hn : name = n <;> simp [Edit.nullableAfter, h.nullable?_eq, hname, hn]

theorem Columnar.nullable?_drops : ∀ (names : List String) {s : Schema}, s.Columnar →
    (s.applyEdits naming (names.map (.dropColumn t))).nullable? t n =
      if n ∈ names then none else s.nullable? t n
  | [], _, _ => (if_neg List.not_mem_nil).symm
  | name :: names, s, h => by
    have hx := h.nullable?_applyEdit naming (t := t) (n := n) (.dropColumn t name)
    have ih := Columnar.nullable?_drops names (h.applyEdit naming (.dropColumn t name))
    refine ih.trans ?_
    rw [hx]
    by_cases hn : n = name
    · simp [Edit.nullableAfter, hn]
    · simp [Edit.nullableAfter, hn, Ne.symm hn, h.nullable?_eq]

end Schema

/-! ## Changes -/

namespace Change

variable {c : Change} {t n : String}

/-- The change decides whether the column of an identity may be null. -/
def Decides (c : Change) (t n : String) : Prop := ∃ e ∈ c.columnScript.edits, e.Decides t n

/-- How a change that decides about the column of an identity leaves it nullable, although its first
declaration of the name, if there is one, is not null. -/
def LeavesNullable (c : Change) (s : Schema) (t n : String) : Prop :=
  match c.element with
  | .createTable | .addColumn => ∃ first last,
      c.columns.find? (·.name? == some n) = some first ∧ first.nullable = false ∧
        c.columns.reverse.find? (·.name? == some n) = some last ∧ last.nullable = true
  | .dropNotNullConstraint => s.store.Knows t n
  | .renameTable => ∃ old new col, c.text? .oldTableName = some old ∧
      c.text? .newTableName = some new ∧
        s.columns.find? (tableRenamed old new ·.pair = (t, n)) = some col ∧ col.nullable = true
  | .renameColumn => ∃ table old new col, c.text? .tableName = some table ∧
      c.text? .oldColumnName = some old ∧ c.text? .newColumnName = some new ∧
        s.columns.find? (columnRenamed table old new ·.pair = (t, n)) = some col ∧
          col.nullable = true
  | _ => False

end Change

namespace Schema

variable (naming : Naming) {s : Schema} {c : Change} {t n : String}

theorem Columnar.nullable?_replay (h : s.Columnar) (c : Change) :
    (s.replay naming c).1.nullable? t n =
      (s.applyEdits naming c.columnScript.edits).nullable? t n := by
  rw [replay_schema, Change.script, Script.andThen_edits, applyEdits_append]
  refine Columnar.nullable?_applyEdits_of_not_decides naming (h.applyEdits naming _) fun e he => ?_
  split at he
  · exact Edit.not_decides_of_constrains (c.constrains_of_mem_constraintScript e he)
  · cases he

theorem Columnar.nullable?_replay_of_not_decides (h : s.Columnar) (hc : ¬ c.Decides t n) :
    (s.replay naming c).1.nullable? t n = s.nullable? t n := by
  rw [h.nullable?_replay]
  exact Columnar.nullable?_applyEdits_of_not_decides naming h fun e he hd => hc ⟨e, he, hd⟩

theorem Columnar.nullable?_replayAll_of_not_decides : ∀ {changes : List Change} {s : Schema},
    s.Columnar → (∀ c ∈ changes, ¬ c.Decides t n) →
      (s.replayAll naming changes).nullable? t n = s.nullable? t n
  | [], _, _, _ => rfl
  | c :: changes, s, h, hc => by
    have ih := Columnar.nullable?_replayAll_of_not_decides (h.replay naming c)
      fun d hd => hc d (List.mem_cons_of_mem c hd)
    exact ih.trans (h.nullable?_replay_of_not_decides naming (hc c List.mem_cons_self))

theorem Columnar.nullable?_replay_of_single (h : s.Columnar) {e : Edit}
    (he : c.columnScript.edits = [e]) :
    (s.replay naming c).1.nullable? t n = e.nullableAfter t n s.columns := by
  rw [h.nullable?_replay, he, ← h.nullable?_applyEdit]
  rfl

/-- Of the columns that a change declares the last one of a name counts. -/
theorem Columnar.nullable?_replay_of_declares (h : s.Columnar) (hok : c.script.failure = none)
    (element : c.element = .createTable ∨ c.element = .addColumn)
    (table : c.text? .tableName = some t) :
    (s.replay naming c).1.nullable? t n =
      ((c.columns.reverse.find? (·.name? == some n)).map (·.nullable)).or (s.nullable? t n) := by
  rw [h.nullable?_replay, Change.edits_of_declares element table,
    Change.columns_of_declares element]
  exact Columnar.nullable?_declares naming h (Change.named_of_declares element table hok)

theorem Columnar.isSome_nullableIn_iff (h : s.Columnar) :
    (nullableIn t n s.columns).isSome ↔ s.store.Knows t n := by
  rw [h.knows_iff, pairs, List.mem_map, nullableIn, Option.isSome_map, List.find?_isSome]
  simp

/-- After a change that decides about the column of an identity, and of which the first declaration
of the name is not null, the column is nullable exactly if the change leaves it so. -/
theorem Columnar.nullable?_replay_iff (h : s.Columnar) (hok : c.script.failure = none)
    (hd : c.Decides t n)
    (hfirst : c.element = .createTable ∨ c.element = .addColumn → c.text? .tableName = some t →
      ∀ x, c.columns.find? (·.name? == some n) = some x → x.nullable = false) :
    (s.replay naming c).1.nullable? t n = some true ↔ c.LeavesNullable s t n := by
  obtain ⟨e, he, hdec⟩ := hd
  unfold Change.LeavesNullable
  cases c.columnEdit_of_mem_columnScript e he with
  | @declare t' x element table nested =>
    obtain ⟨rfl, rfl⟩ := Prod.mk.inj hdec
    obtain ⟨hx, hname⟩ := NestedColumn.mem_of_mem_leading nested
    rw [← Change.columns_of_declares element] at hx
    have hfirst? : (c.columns.find? (·.name? == some x.1)).isSome :=
      List.find?_isSome.mpr ⟨x.2, hx, by simp [hname]⟩
    have hlast? : (c.columns.reverse.find? (·.name? == some x.1)).isSome :=
      List.find?_isSome.mpr ⟨x.2, List.mem_reverse.mpr hx, by simp [hname]⟩
    obtain ⟨first, hf⟩ := Option.isSome_iff_exists.mp hfirst?
    obtain ⟨last, hl⟩ := Option.isSome_iff_exists.mp hlast?
    have hnot : first.nullable = false := hfirst element table first hf
    rw [h.nullable?_replay_of_declares naming hok element table, hl]
    rcases element with element | element <;> rw [element] <;> simp [hf, hnot]
  | renameTable element oldTable newTable =>
    have hs := Change.columnScript_renameTable element
    rw [oldTable, newTable] at hs
    rw [h.nullable?_replay_of_single naming hs, element]
    simp [Edit.nullableAfter, oldTable, newTable]
  | renameColumn element table oldColumn newColumn =>
    have hs := Change.columnScript_renameColumn element
    rw [table, oldColumn, newColumn] at hs
    rw [h.nullable?_replay_of_single naming hs, element]
    simp [Edit.nullableAfter, table, oldColumn, newColumn]
  | forbidNull element table column =>
    obtain ⟨rfl, rfl⟩ := Prod.mk.inj hdec
    have hs := Change.columnScript_addNotNullConstraint element table column
    rw [h.nullable?_replay_of_single naming hs, element]
    simp [Edit.nullableAfter]
  | allowNull element table column =>
    obtain ⟨rfl, rfl⟩ := Prod.mk.inj hdec
    have hs := Change.columnScript_dropNotNullConstraint element table column
    rw [h.nullable?_replay_of_single naming hs, element]
    simp [Edit.nullableAfter, ← h.isSome_nullableIn_iff, Option.isSome_iff_exists]
  | setType element table column => exact hdec.elim
  | dropTable element table =>
    obtain rfl : _ = t := hdec
    have hs := Change.columnScript_dropTable element table
    rw [h.nullable?_replay_of_single naming hs, element]
    simp [Edit.nullableAfter]
  | dropColumn element table column =>
    obtain ⟨rfl, rfl⟩ := Prod.mk.inj hdec
    rw [h.nullable?_replay, Change.columnScript_dropColumn element table,
      Columnar.nullable?_drops naming _ h, if_pos column, element]
    simp

end Schema

end MigrationAudit
