import MigrationAudit.Schema.Replay

/-!
# Schemas as lists of columns

Changes put nothing into a store but columns, each under its own identity.  So a schema that changes
lead to from the empty one is a list of columns and a count of drawn names
(`Schema.Reachable.columnar`), and an edit works on the list alone
(`Schema.Columnar.columns_applyEdit`): it places a column, revises the columns that its query finds,
or drops them.
-/

namespace MigrationAudit

@[simp]
theorem identity_matches_table {c : Column} {t : String} :
    c.identity.matches (.table t) = true ↔ c.table = t := by
  simp [Column.identity, Identity.matches]

@[simp]
theorem identity_matches_column {c : Column} {t n : String} :
    c.identity.matches (.column t n) = true ↔ c.table = t ∧ c.name = n := by
  simp [Column.identity, Identity.matches]

/-- The column in the place of the first one with its identity, or at the end. -/
def Column.placedIn (c : Column) : List Column → List Column
  | [] => [c]
  | d :: ds => if d.identity = c.identity then c :: ds else d :: c.placedIn ds

/-- The column after an update of the columns that a query finds. -/
def Column.updated (q : Query) (f : Column → Column) (c : Column) : Column :=
  if c.identity.matches q then f c else c

theorem map_updated_of_unknown {q : Query} (f : Column → Column) {cs : List Column}
    (h : ∀ c ∈ cs, ¬ c.identity.matches q = true) : cs.map (Column.updated q f) = cs := by
  refine (List.map_congr_left fun c hc => ?_).trans (List.map_id cs)
  simp [Column.updated, h c hc]

/-! ## Stores of columns -/

namespace Store

/-- The store of columns under their own identities. -/
def ofColumns (cs : List Column) : Store := ⟨cs.map fun c => (c.identity, .column c)⟩

variable (cs : List Column)

theorem keys_ofColumns : (ofColumns cs).keys = cs.map Column.identity := by
  simp [ofColumns, keys]

theorem size_ofColumns : (ofColumns cs).size = cs.length := by
  simp [ofColumns, size]

theorem columns_ofColumns (q : Query) :
    (ofColumns cs).columns q = cs.filter fun c => c.identity.matches q := by
  induction cs with
  | nil => rfl
  | cons c cs ih =>
    simp only [columns, matching, ofColumns, List.map_cons, List.filter_cons] at ih ⊢
    split
    · simp [Entity.column?, ih]
    · exact ih

theorem column?_ofColumns (t n : String) :
    (ofColumns cs).column? t n = cs.find? fun c => c.identity.matches (.column t n) := by
  rw [column?, columns_ofColumns, List.head?_filter]

theorem put_ofColumns (c : Column) :
    (ofColumns cs).put c.identity (.column c) = ofColumns (c.placedIn cs) := by
  simp only [put, ofColumns, mk.injEq]
  induction cs with
  | nil => rfl
  | cons d ds ih =>
    simp only [List.map_cons, putEntry, Column.placedIn]
    split
    · rfl
    · rw [List.map_cons, ih]

theorem update_ofColumns (q : Query) (f : Column → Column) :
    (ofColumns cs).update q f = ofColumns (cs.map (Column.updated q f)) := by
  simp only [update, ofColumns, List.map_map, mk.injEq]
  refine List.map_congr_left fun c _ => ?_
  simp only [Function.comp, updateEntry, Column.updated]
  split <;> rfl

theorem removeMatching_ofColumns (q : Query) :
    (ofColumns cs).removeMatching q = ofColumns (cs.filter fun c => !c.identity.matches q) := by
  simp only [removeMatching, removeWhere, ofColumns, List.filter_map, mk.injEq]
  rfl

end Store

/-! ## Edits on columns -/

namespace Edit

/-- The columns that the edit is about. -/
def query : Edit → Query
  | .declare t n _ _ => .column t n
  | .renameTable old _ => .table old
  | .renameColumn t old _ => .column t old
  | .setNullable t n _ => .column t n
  | .setType t n _ => .column t n
  | .dropTable t => .table t
  | .dropColumn t n => .column t n
  | .attach t n _ _ => .column t n
  | .detachNamed t _ => .table t
  | .detachPrimaryKeys t _ => .table t
  | .detachForeignKeys t => .table t

/-- The column that a declaration makes known. -/
def declared (table name : String) (nullable : Bool) (declaration : Option String) : Column :=
  { table, name, nullable, dataType := declaration.map Declaration.base, oldType := none,
    length := declaration.map Declaration.parameter, constraints := [] }

/-- What becomes of a column that the edit is about, unless it is declared or dropped. -/
def revise (naming : Naming) (drawn : Nat) : Edit → Column → Column
  | .renameTable _ new, c => { c with table := new }
  | .renameColumn _ _ new, c => { c with name := new }
  | .setNullable _ _ nullable, c => { c with nullable }
  | .setType _ _ declaration, c =>
    { c.setType (declaration.map Declaration.base) with
      length := declaration.map Declaration.parameter }
  | .attach _ _ name kind, c =>
    { c with constraints := c.constraints ++
        [Schema.nameConstraint naming ⟨.empty, drawn⟩ kind name] }
  | .detachNamed _ name, c =>
    { c with constraints := c.constraints.filter fun k => !(k.name.text == name) }
  | .detachPrimaryKeys _ name, c =>
    { c with constraints := c.constraints.filter fun k =>
        !(k.kind == .primaryKey || some k.name.text == name) }
  | .detachForeignKeys _, c =>
    { c with constraints := c.constraints.filter fun k => !(k.kind == .foreignKey) }
  | _, c => c

/-- The columns after the edit. -/
def onColumns (naming : Naming) (drawn : Nat) (e : Edit) (cs : List Column) : List Column :=
  match e with
  | .declare t n nullable declaration => (declared t n nullable declaration).placedIn cs
  | .dropTable t => cs.filter fun c => !c.identity.matches (.table t)
  | .dropColumn t n => cs.filter fun c => !c.identity.matches (.column t n)
  | e => cs.map (Column.updated e.query (e.revise naming drawn))

/-- How many names the edit draws: one for a nameless constraint on a known column. -/
def draws (cs : List Column) : Edit → Nat
  | .attach t n none _ => if cs.any fun c => c.identity.matches (.column t n) then 1 else 0
  | _ => 0

end Edit

namespace Schema

def ofColumns (cs : List Column) (drawn : Nat) : Schema := ⟨.ofColumns cs, drawn⟩

variable (naming : Naming)

theorem applyEdit_attach_of_unknown {cs : List Column} {t n : String}
    (h : ∀ c ∈ cs, ¬ c.identity.matches (.column t n) = true) (drawn : Nat) (name : Option String)
    (kind : ConstraintKind) :
    (ofColumns cs drawn).applyEdit naming (.attach t n name kind) = ofColumns cs drawn := by
  have hf : (Store.ofColumns cs).column? t n = none := by
    rw [Store.column?_ofColumns, List.find?_eq_none]
    exact h
  simp [applyEdit, ofColumns, hf]

theorem applyEdit_ofColumns (cs : List Column) (drawn : Nat) (e : Edit) :
    (ofColumns cs drawn).applyEdit naming e =
      ofColumns (e.onColumns naming drawn cs) (drawn + e.draws cs) := by
  cases e with
  | declare t n nullable declaration =>
    exact congrArg (Schema.mk · drawn)
      (Store.put_ofColumns cs (Edit.declared t n nullable declaration))
  | dropTable t => exact congrArg (Schema.mk · drawn) (Store.removeMatching_ofColumns cs _)
  | dropColumn t n => exact congrArg (Schema.mk · drawn) (Store.removeMatching_ofColumns cs _)
  | attach t n name kind =>
    by_cases h : ∀ c ∈ cs, ¬ c.identity.matches (.column t n) = true
    · have hd : (Edit.attach t n name kind).draws cs = 0 := by
        cases name with
        | none => simpa [Edit.draws] using h
        | some s => rfl
      rw [applyEdit_attach_of_unknown naming h, hd]
      exact congrArg (ofColumns · drawn) (map_updated_of_unknown _ h).symm
    · obtain ⟨c, hc, hct⟩ : ∃ c ∈ cs, c.identity.matches (.column t n) = true := by
        simpa using h
      have hf : ((Store.ofColumns cs).column? t n).isNone = false := by
        rw [Store.column?_ofColumns, Option.isNone_eq_false_iff, List.find?_isSome]
        exact ⟨c, hc, hct⟩
      have hd : cs.any (fun c => c.identity.matches (.column t n)) = true :=
        List.any_eq_true.mpr ⟨c, hc, hct⟩
      have hs : ((ofColumns cs drawn).applyEdit naming (.attach t n name kind)).store =
          Store.ofColumns ((Edit.attach t n name kind).onColumns naming drawn cs) := by
        cases name <;> simp only [applyEdit, ofColumns, hf] <;>
          exact Store.update_ofColumns cs _ _
      have hn : ((ofColumns cs drawn).applyEdit naming (.attach t n name kind)).drawn =
          drawn + (Edit.attach t n name kind).draws cs := by
        cases name <;> simp [applyEdit, ofColumns, hf, updateColumn, Edit.draws, hd]
      exact (congrArg (Schema.mk · _) hs).trans (congrArg (Schema.mk _ ·) hn)
  | _ => exact congrArg (Schema.mk · drawn) (Store.update_ofColumns cs _ _)

end Schema

/-! ## Schemas that changes lead to -/

namespace Schema

def columns (s : Schema) : List Column := s.store.entries.filterMap fun p => p.2.column?

/-- The store holds columns alone, each under its own identity. -/
def Columnar (s : Schema) : Prop := s.store = .ofColumns s.columns

theorem columns_ofColumns (cs : List Column) (drawn : Nat) : (ofColumns cs drawn).columns = cs := by
  unfold columns ofColumns Store.ofColumns
  rw [List.filterMap_map]
  exact List.filterMap_some

theorem columnar_ofColumns (cs : List Column) (drawn : Nat) : (ofColumns cs drawn).Columnar := by
  rw [Columnar, columns_ofColumns]
  rfl

theorem columnar_empty : empty.Columnar := rfl

theorem Columnar.eq_ofColumns {s : Schema} (h : s.Columnar) : s = ofColumns s.columns s.drawn :=
  congrArg (Schema.mk · s.drawn) h

theorem Columnar.column?_eq {s : Schema} (h : s.Columnar) (t n : String) :
    s.store.column? t n = s.columns.find? fun c => c.identity.matches (.column t n) := by
  rw [h, Store.column?_ofColumns]

theorem Columnar.columns_eq {s : Schema} (h : s.Columnar) (q : Query) :
    s.store.columns q = s.columns.filter fun c => c.identity.matches q := by
  rw [h, Store.columns_ofColumns]

variable (naming : Naming)

/-- What every edit keeps is kept by a run of changes. -/
theorem applyEdits_keeps {P : Schema → Prop} (h : ∀ s e, P s → P (s.applyEdit naming e)) :
    ∀ (es : List Edit) {s : Schema}, P s → P (s.applyEdits naming es)
  | [], _, hs => hs
  | e :: es, s, hs => applyEdits_keeps h es (h s e hs)

theorem replayAll_keeps {P : Schema → Prop} (h : ∀ s e, P s → P (s.applyEdit naming e)) :
    ∀ (changes : List Change) {s : Schema}, P s → P (s.replayAll naming changes)
  | [], _, hs => hs
  | c :: changes, _, hs => replayAll_keeps h changes (applyEdits_keeps naming h c.script.edits hs)

theorem replayAll_append (s : Schema) (changes more : List Change) :
    s.replayAll naming (changes ++ more) = (s.replayAll naming changes).replayAll naming more := by
  simp [replayAll]

variable {s : Schema}

theorem Columnar.applyEdit_eq (h : s.Columnar) (e : Edit) :
    s.applyEdit naming e =
      ofColumns (e.onColumns naming s.drawn s.columns) (s.drawn + e.draws s.columns) := by
  rw [← applyEdit_ofColumns, ← h.eq_ofColumns]

theorem Columnar.applyEdit (h : s.Columnar) (e : Edit) : (s.applyEdit naming e).Columnar := by
  rw [h.applyEdit_eq]
  exact columnar_ofColumns _ _

theorem Columnar.columns_applyEdit (h : s.Columnar) (e : Edit) :
    (s.applyEdit naming e).columns = e.onColumns naming s.drawn s.columns := by
  rw [h.applyEdit_eq, columns_ofColumns]

theorem Columnar.applyEdits (h : s.Columnar) (es : List Edit) : (s.applyEdits naming es).Columnar :=
  applyEdits_keeps naming (fun _ e hs => hs.applyEdit naming e) es h

theorem Columnar.replay (h : s.Columnar) (c : Change) : (s.replay naming c).1.Columnar :=
  h.applyEdits naming c.script.edits

theorem Columnar.replayAll (h : s.Columnar) (changes : List Change) :
    (s.replayAll naming changes).Columnar :=
  replayAll_keeps naming (fun _ e hs => hs.applyEdit naming e) changes h

/-- The schemas that changes lead to from the empty one, whatever failed among them. -/
def Reachable (s : Schema) : Prop := ∃ changes, s = empty.replayAll naming changes

variable {naming}

theorem Reachable.columnar (h : s.Reachable naming) : s.Columnar := by
  obtain ⟨changes, rfl⟩ := h
  exact columnar_empty.replayAll naming changes

end Schema

end MigrationAudit
