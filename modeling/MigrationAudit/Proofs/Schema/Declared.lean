import MigrationAudit.Proofs.Schema.Absence
import MigrationAudit.Proofs.Schema.Entries

/-!
# Columns that a change declares

A change that declares columns puts all of them first (`Schema.store_declares`) and then attaches
the inline constraints of one after the other to what is under its name by then
(`Schema.attached_applyEdits`).  So of a name that is declared more than once the last declaration
counts, but for the constraints: these come from all of them (`Schema.store_declared`).
-/

namespace MigrationAudit

/-! ## Declarations -/

/-- A constraint under its name, or under a drawn one. -/
def Constraint.ofName (kind : ConstraintKind) (name : Option String) : Constraint :=
  ⟨kind, name.elim (.drawn "<generated>") .declared⟩

theorem Schema.masked_nameConstraint_eq (naming : Naming) (s : Schema) (kind : ConstraintKind)
    (name : Option String) : (s.nameConstraint naming kind name).masked = .ofName kind name := by
  cases name <;> rfl

namespace NestedColumn

/-- The constraints that a column declares inline. -/
def inlineConstraints (n : NestedColumn) : List Constraint :=
  match n.constraints? with
  | none => []
  | some k =>
    (if k.flag? .primaryKey = some true then
      [.ofName .primaryKey (k.text? .primaryKeyName)] else []) ++
    (if k.flag? .unique = some true then
      [.ofName .index (k.text? .uniqueConstraintName)] else []) ++
    (if ((k.text? .references).or (k.text? .referencedTableName)).any (· ≠ "") then
      [.ofName .foreignKey (k.text? .foreignKeyName)] else [])

/-- The declarations of a column among others, in order. -/
def declarationsOf (ns : List NestedColumn) (x : String) : List NestedColumn :=
  ns.filter fun n => n.name? = some x

variable {ns : List NestedColumn} {x : String}

theorem leadingNames_eq (named : ∀ n ∈ ns, n.name?.isSome) :
    leadingNames ns = ns.filterMap name? := by
  induction ns with
  | nil => rfl
  | cons n ns ih =>
    obtain ⟨name, hn⟩ := Option.isSome_iff_exists.mp (named n List.mem_cons_self)
    have ih := ih fun m hm => named m (List.mem_cons_of_mem n hm)
    rw [leadingNames] at ih ⊢
    simp [leading, hn, ih]

theorem filter_leading (named : ∀ n ∈ ns, n.name?.isSome) :
    (leading ns).filter (·.1 = x) = (declarationsOf ns x).map (x, ·) := by
  induction ns with
  | nil => rfl
  | cons n ns ih =>
    obtain ⟨name, hn⟩ := Option.isSome_iff_exists.mp (named n List.mem_cons_self)
    have ih := ih fun m hm => named m (List.mem_cons_of_mem n hm)
    rw [declarationsOf] at ih ⊢
    by_cases hx : name = x
    · subst hx
      simp [leading, hn, ih]
    · simp [leading, hn, hx, ih]

theorem exists_last_declaration (h : x ∈ ns.filterMap name?) :
    ∃ last, (declarationsOf ns x).getLast? = some last := by
  obtain ⟨n, hn, hx⟩ := List.mem_filterMap.mp h
  have there : n ∈ declarationsOf ns x := List.mem_filter.mpr ⟨hn, by simpa using hx⟩
  rw [← Option.isSome_iff_exists, List.getLast?_isSome]
  exact List.ne_nil_of_mem there

end NestedColumn

/-! ## Constraints that are attached -/

namespace Edit

/-- The constraint that the edit attaches to columns of a name. -/
def attachedTo (x : String) : Edit → Option Constraint
  | .attach _ n name kind => if n = x then some (.ofName kind name) else none
  | _ => none

open Change NestedColumn

theorem filterMap_attach_if (P : Prop) [Decidable P] (t n x : String) (name : Option String)
    (kind : ConstraintKind) :
    (if P then [Edit.attach t n name kind] else []).filterMap (attachedTo x) =
      if n = x then if P then [.ofName kind name] else [] else [] := by
  by_cases hx : n = x <;> split <;> simp [attachedTo, hx]

theorem filterMap_inlineEdits (t x : String) (n : NestedColumn) (name : String) :
    (n.constraints?.toList.flatMap (inlineEdits t name)).filterMap (attachedTo x) =
      if name = x then n.inlineConstraints else [] := by
  unfold inlineConstraints
  cases n.constraints? with
  | none => simp
  | some k =>
    have refers : k.reference?.isSome =
        ((k.text? .references).or (k.text? .referencedTableName)).any (· ≠ "") :=
      Option.isSome_filter
    simp only [Option.toList_some, List.flatMap_singleton, inlineEdits, refers,
      List.filterMap_append, filterMap_attach_if]
    by_cases hx : name = x
    · simp only [if_pos hx]
    · simp only [if_neg hx, List.append_nil]

/-- The constraints that are declared inline with columns of a table. -/
def inlineAttaches (t : String) (ps : List (String × NestedColumn)) : List Edit :=
  ps.flatMap fun p => p.2.constraints?.toList.flatMap (inlineEdits t p.1)

theorem filterMap_inlineAttaches (t x : String) (ns : List NestedColumn) :
    (inlineAttaches t (leading ns)).filterMap (attachedTo x) =
      (((leading ns).filter (·.1 = x)).map (·.2)).flatMap inlineConstraints := by
  unfold inlineAttaches
  induction leading ns with
  | nil => rfl
  | cons p ps ih =>
    rw [List.flatMap_cons, List.filterMap_append, filterMap_inlineEdits, ih]
    by_cases hx : p.1 = x <;> simp [hx]

end Edit

/-- A column is found under its own identity. -/
def Store.Holds (s : Store) (t n : String) (c : Column) : Prop :=
  s.get? (.column t n) = some (.column c) ∧ c.identity = .column t n

namespace Schema

variable (naming : Naming) {t : String}

/-- The columns that are declared, each under its identity. -/
def declaredEntries (t : String) (ps : List (String × NestedColumn)) : List (Identity × Entity) :=
  ps.map fun p => (.column t p.1, .column (Edit.declared t p.1 p.2.nullable (p.2.text? .type)))

theorem ids_declaredEntries (t : String) {ns : List NestedColumn}
    (named : ∀ n ∈ ns, n.name?.isSome) :
    (declaredEntries t (NestedColumn.leading ns)).map (·.1) =
      (ns.filterMap NestedColumn.name?).map (Identity.column t) := by
  rw [← NestedColumn.leadingNames_eq named, NestedColumn.leadingNames, declaredEntries,
    List.map_map, List.map_map]
  rfl

theorem store_declares (t : String) : ∀ (ps : List (String × NestedColumn)) (s : Schema),
    (s.applyEdits naming
        (ps.map fun p => .declare t p.1 p.2.nullable (p.2.text? .type))).store =
      s.store.putAll (declaredEntries t ps)
  | [], _ => rfl
  | p :: ps, s => store_declares t ps
      (s.applyEdit naming (.declare t p.1 p.2.nullable (p.2.text? .type)))

theorem holds_declared {ns : List NestedColumn} (named : ∀ n ∈ ns, n.name?.isSome) {x : String}
    {last : NestedColumn} (hlast : (NestedColumn.declarationsOf ns x).getLast? = some last)
    (s : Store) :
    (s.putAll (declaredEntries t (NestedColumn.leading ns))).Holds t x
      (Edit.declared t x last.nullable (last.text? .type)) := by
  have put : ((declaredEntries t (NestedColumn.leading ns)).filter
        (·.1 == .column t x)).getLast? =
      some (.column t x, .column (Edit.declared t x last.nullable (last.text? .type))) := by
    have ofName : ((fun q : Identity × Entity => q.1 == Identity.column t x) ∘
        fun p : String × NestedColumn => (Identity.column t p.1,
          Entity.column (Edit.declared t p.1 p.2.nullable (p.2.text? .type)))) =
        fun p => decide (p.1 = x) := by
      funext p
      rw [Bool.eq_iff_iff]
      simp
    rw [declaredEntries, List.filter_map, ofName, NestedColumn.filter_leading named,
      List.map_map, List.getLast?_map, hlast]
    rfl
  exact ⟨by rw [Store.get?_putAll, put]; rfl, rfl⟩

theorem store_attach {s : Schema} (distinct : s.store.keys.Nodup) {n : String} {c : Column}
    (hc : s.store.Holds t n c) (name : Option String) (kind : ConstraintKind) :
    (s.applyEdit naming (.attach t n name kind)).store = s.store.put (.column t n)
      (.column { c with constraints := c.constraints ++ [s.nameConstraint naming kind name] }) := by
  have known : s.store.column? t n = some c := Store.column?_of_get? hc.1
  have updated := Store.update_eq_put distinct hc.1
    (f := fun c => { c with constraints := c.constraints ++ [s.nameConstraint naming kind name] })
    hc.2
  rw [← updated]
  cases name <;> simp [applyEdit, known, updateColumn]

/-- What attaching constraints to columns of the table makes of a store. -/
structure Attached (t : String) (names : List String) (es : List Edit) (s s' : Store) : Prop where
  keys : s'.keys = s.keys
  others : ∀ p : Identity → Bool, (∀ n ∈ names, p (.column t n) = false) →
    s'.entries.filter (p ·.1) = s.entries.filter (p ·.1)
  columns : ∀ n c, s.Holds t n c → ∃ ks : List Constraint,
    s'.Holds t n { c with constraints := c.constraints ++ ks } ∧
      ks.map Constraint.masked = es.filterMap (Edit.attachedTo n)

theorem attached_applyEdit {names : List String} {s : Schema} (distinct : s.store.keys.Nodup)
    {n : String} (hn : n ∈ names) {c : Column} (hc : s.store.Holds t n c) (name : Option String)
    (kind : ConstraintKind) :
    Attached t names [.attach t n name kind] s.store
      (s.applyEdit naming (.attach t n name kind)).store := by
  rw [store_attach naming distinct hc]
  refine ⟨Store.keys_put_of_mem (Store.mem_keys_of_get? hc.1) _, fun p hp => ?_, fun m d hd => ?_⟩
  · exact Store.filter_put _ _ _ (hp n hn)
  · by_cases hm : n = m
    · subst hm
      obtain rfl : c = d := by simpa [hc.1] using hd.1
      refine ⟨[s.nameConstraint naming kind name], ⟨?_, hd.2⟩, ?_⟩
      · rw [Store.get?_put, if_pos rfl]
      · simp [Edit.attachedTo, masked_nameConstraint_eq]
    · refine ⟨[], ⟨?_, by simpa using hd.2⟩, by simp [Edit.attachedTo, hm]⟩
      rw [Store.get?_put, if_neg (by simpa using hm), hd.1, List.append_nil]

theorem Attached.refl (t : String) (names : List String) (s : Store) :
    Attached t names [] s s := by
  refine ⟨rfl, fun _ _ => rfl, fun n c hc => ⟨[], ?_, rfl⟩⟩
  rw [List.append_nil]
  exact hc

theorem Attached.trans {names : List String} {es fs : List Edit} {s s' s'' : Store}
    (h : Attached t names es s s') (h' : Attached t names fs s' s'') :
    Attached t names (es ++ fs) s s'' := by
  refine ⟨h'.keys.trans h.keys, fun p hp => (h'.others p hp).trans (h.others p hp),
    fun n c hc => ?_⟩
  obtain ⟨ks, hks, masked⟩ := h.columns n c hc
  obtain ⟨ls, hls, masked'⟩ := h'.columns n _ hks
  refine ⟨ks ++ ls, ?_, ?_⟩
  · rwa [← List.append_assoc]
  · rw [List.map_append, List.filterMap_append, masked, masked']

theorem attached_applyEdits {names : List String} : ∀ {es : List Edit} {s : Schema},
    s.store.keys.Nodup → (∀ n ∈ names, ∃ c, s.store.Holds t n c) →
      (∀ e ∈ es, ∃ n ∈ names, ∃ name kind, e = .attach t n name kind) →
        Attached t names es s.store (s.applyEdits naming es).store
  | [], s, _, _, _ => .refl t names s.store
  | e :: es, s, distinct, held, hes => by
    obtain ⟨n, hn, name, kind, rfl⟩ := hes e List.mem_cons_self
    obtain ⟨c, hc⟩ := held n hn
    have first := attached_applyEdit naming distinct hn hc name kind
    -- the columns stay where they are, so that the rest finds them too
    have held' : ∀ m ∈ names, ∃ d,
        (s.applyEdit naming (.attach t n name kind)).store.Holds t m d := by
      intro m hm
      obtain ⟨d, hd⟩ := held m hm
      obtain ⟨ks, hks, -⟩ := first.columns m d hd
      exact ⟨_, hks⟩
    have rest := attached_applyEdits (by rwa [first.keys]) held'
      fun f hf => hes f (List.mem_cons_of_mem _ hf)
    exact first.trans rest

/-! ## Changes -/

variable {s : Schema} {c : Change}

theorem attached_replay (he : c.element = .createTable ∨ c.element = .addColumn)
    (ht : c.text? .tableName = some t) (named : ∀ n ∈ c.nested, n.name?.isSome)
    (distinct : s.store.keys.Nodup) :
    (s.replay naming c).2 = none ∧
      Attached t (c.nested.filterMap NestedColumn.name?)
        (Edit.inlineAttaches t (NestedColumn.leading c.nested))
        (s.store.putAll (declaredEntries t (NestedColumn.leading c.nested)))
        (s.replay naming c).1.store := by
  have succeeds : ∀ f : String → NestedColumn → List Edit,
      (Script.overColumns f c.nested).failure = none := by
    intro f
    rw [Script.overColumns_failure, if_pos named]
  constructor
  · rw [replay_failure, Change.script_declares he ht, Script.andThen_failure, succeeds, succeeds]
    rfl
  rw [replay_schema, Change.script_declares he ht, Script.andThen_edits, succeeds, if_pos rfl,
    Script.overColumns_edits, Script.overColumns_edits, ← List.map_eq_flatMap, applyEdits_append,
    ← store_declares naming]
  refine attached_applyEdits naming ?_ (fun x hx => ?_) fun e he => ?_
  · rw [store_declares]
    exact Store.nodup_keys_putAll _ distinct
  · obtain ⟨last, hlast⟩ := NestedColumn.exists_last_declaration hx
    rw [store_declares]
    exact ⟨_, holds_declared named hlast s.store⟩
  · obtain ⟨p, hp, he⟩ := List.mem_flatMap.mp he
    obtain ⟨k, -, he⟩ := List.mem_flatMap.mp he
    obtain ⟨name, kind, rfl⟩ := Change.attach_of_mem_inlineEdits he
    refine ⟨p.1, ?_, name, kind, rfl⟩
    rw [← NestedColumn.leadingNames_eq named]
    exact List.mem_map_of_mem hp

/-- What a change leaves that creates a table or adds columns, all of them named, where the stored
identities are distinct.  Known columns keep their places and new ones are appended as they are
first declared.  A column is as its last declaration has it, with the constraints of all its
declarations.  Nothing else in the store is touched. -/
theorem store_declared (he : c.element = .createTable ∨ c.element = .addColumn)
    (ht : c.text? .tableName = some t) (named : ∀ n ∈ c.nested, n.name?.isSome)
    (distinct : s.store.keys.Nodup) :
    let after := (s.replay naming c).1.store
    let names := c.nested.filterMap NestedColumn.name?
    (s.replay naming c).2 = none ∧
      after.keys = s.store.keys ++
        ((names.map (Identity.column t)).filter (· ∉ s.store.keys)).eraseDups ∧
      (∀ x ∈ names, ∃ last column,
        (NestedColumn.declarationsOf c.nested x).getLast? = some last ∧
          after.get? (.column t x) = some (.column column) ∧
          after.column? t x = some column ∧
          column.masked =
            { table := t, name := x, nullable := last.nullable,
              dataType := (last.text? .type).map Declaration.base, oldType := none,
              length := (last.text? .type).map Declaration.parameter,
              constraints := (NestedColumn.declarationsOf c.nested x).flatMap
                NestedColumn.inlineConstraints }) ∧
      after.entries.filter (fun p => p.1 ∉ names.map (Identity.column t)) =
        s.store.entries.filter fun p => p.1 ∉ names.map (Identity.column t) := by
  intro after names
  obtain ⟨succeeds, attached⟩ := attached_replay naming he ht named distinct
  have ids := ids_declaredEntries t named
  refine ⟨succeeds, ?_, fun x hx => ?_, ?_⟩
  · rw [attached.keys, Store.keys_putAll, ids]
  · obtain ⟨last, hlast⟩ := NestedColumn.exists_last_declaration hx
    obtain ⟨ks, hks, masked⟩ := attached.columns x _ (holds_declared named hlast s.store)
    refine ⟨last, _, hlast, hks.1, Store.column?_of_get? hks.1, ?_⟩
    have all : ks.map Constraint.masked =
        (NestedColumn.declarationsOf c.nested x).flatMap NestedColumn.inlineConstraints := by
      rw [masked, Edit.filterMap_inlineAttaches, NestedColumn.filter_leading named,
        List.map_map]
      exact congrArg (List.flatMap _) (List.map_id _)
    rw [← all]
    rfl
  · let other : Identity → Bool := fun id => id ∉ names.map (Identity.column t)
    have within : ∀ id ∈ names.map (Identity.column t), other id = false :=
      fun id hid => by simpa [other] using hid
    refine (attached.others other fun n hn => within _ (List.mem_map_of_mem hn)).trans ?_
    refine Store.filter_putAll (p := other) s.store fun q hq => within q.1 ?_
    rw [← ids]
    exact List.mem_map_of_mem hq

/-- A column that is declared twice and one that has been known with an index, beside what is no
column and the column of another table. -/
theorem store_declared_of_repeated :
    let s : Schema := ⟨⟨[
      (.column "t" "a", .column { Column.fresh "t" "a" with
        constraints := [⟨.index, .declared "i"⟩] }),
      (.constraint "k", .constraint ⟨.index, .declared "k"⟩),
      (.column "u" "b", .column (.fresh "u" "b"))]⟩, 0⟩
    let c := Change.ofTexts .addColumn [(.tableName, "t")]
      [.ofKey "b" "pk", .ofType "a" "VARCHAR(10)", .ofType "b" "INT"]
    let after := (s.replay (fun _ => "") c).1.store
    (∀ n ∈ c.nested, n.name?.isSome) ∧ s.store.keys.Nodup ∧
      after.keys = s.store.keys ++ [.column "t" "b"] ∧
      (∃ a, after.get? (.column "t" "a") = some (.column a) ∧
        a.masked = ⟨"t", "a", true, some "VARCHAR", none, some "10", []⟩) ∧
      (∃ b, after.get? (.column "t" "b") = some (.column b) ∧
        b.masked =
          ⟨"t", "b", true, some "INT", none, some "", [⟨.primaryKey, .declared "pk"⟩]⟩) := by
  intro s c after
  have named : ∀ n ∈ c.nested, n.name?.isSome := by decide
  have distinct : s.store.keys.Nodup := by decide
  obtain ⟨-, keys, columns, -⟩ :=
    store_declared (fun _ => "") (.inr rfl : c.element = _ ∨ c.element = _) rfl named distinct
  refine ⟨named, distinct, keys, ?_, ?_⟩
  · obtain ⟨last, a, hlast, ha, -, masked⟩ := columns "a" (by decide)
    obtain rfl : NestedColumn.ofType "a" "VARCHAR(10)" = last := Option.some.inj hlast
    exact ⟨a, ha, masked.trans (by decide +kernel)⟩
  · obtain ⟨last, b, hlast, hb, -, masked⟩ := columns "b" (by decide)
    obtain rfl : NestedColumn.ofType "b" "INT" = last := Option.some.inj hlast
    exact ⟨b, hb, masked.trans (by decide +kernel)⟩

end Schema

end MigrationAudit
