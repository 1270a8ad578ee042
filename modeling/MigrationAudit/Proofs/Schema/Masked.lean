import MigrationAudit.Proofs.Schema.Renamed

/-!
# Schemas under a mask

An edit that drops no constraint by name does to a masked schema what it does to the schema itself
(`Schema.masked_applyEdit`), whatever the store holds and whatever names are drawn.  So after such
edits two namings leave the same schema but for the drawn names (`Schema.masked_applyEdits`).
-/

namespace MigrationAudit

namespace Entity

def masked : Entity → Entity
  | column c => column c.masked
  | constraint k => constraint k.masked

theorem column?_masked (e : Entity) : e.masked.column? = e.column?.map Column.masked := by
  cases e <;> rfl

end Entity

namespace Store

variable (s : Store)

theorem masked_eq_map : s.masked = ⟨s.entries.map fun p => (p.1, p.2.masked)⟩ := by
  unfold masked
  congr 2
  funext ⟨id, e⟩
  cases e <;> rfl

theorem masked_put (id : Identity) (e : Entity) :
    (s.put id e).masked = s.masked.put id e.masked := by
  simp only [masked_eq_map, put, mk.injEq]
  induction s.entries with
  | nil => rfl
  | cons p ps ih =>
    simp only [putEntry, List.map_cons]
    split
    · rfl
    · rw [List.map_cons, ih]

theorem masked_removeMatching (q : Query) :
    (s.removeMatching q).masked = s.masked.removeMatching q := by
  simp only [masked_eq_map, removeMatching, removeWhere, List.filter_map, Function.comp_def]

theorem masked_update {f g : Column → Column} (h : ∀ c, (f c).masked = g c.masked) (q : Query) :
    (s.update q f).masked = s.masked.update q g := by
  simp only [masked_eq_map, update, List.map_map, mk.injEq]
  refine List.map_congr_left fun p _ => ?_
  obtain ⟨id, c | k⟩ := p
  · have same : (g c.masked).identity = (f c).identity := by rw [← h c]; rfl
    by_cases hm : id.matches q = true <;> simp [updateEntry, Entity.masked, hm, h, same]
  · by_cases hm : id.matches q = true <;> simp [updateEntry, Entity.masked, hm]

theorem column?_masked (t n : String) :
    s.masked.column? t n = (s.column? t n).map Column.masked := by
  have columns : s.masked.columns (.column t n) = (s.columns (.column t n)).map Column.masked := by
    simp only [masked_eq_map, Store.columns, matching, List.filter_map, List.map_map,
      List.filterMap_map, List.map_filterMap, Function.comp_def, Entity.column?_masked]
  rw [column?, columns, List.head?_map, column?]

end Store

namespace Schema

/-- The schema with one text for all drawn names. -/
def masked (s : Schema) : Schema := ⟨s.store.masked, s.drawn⟩

variable (naming naming' : Naming) {e : Edit}

theorem masked_nameConstraint (s : Schema) (kind : ConstraintKind) (name : Option String) :
    (s.nameConstraint naming kind name).masked =
      s.masked.nameConstraint (mask ∘ naming) kind name := by
  cases name <;> rfl

theorem masked_detach {p : Constraint → Bool} (hp : ∀ k, p (k.renamed mask) = p k) (s : Schema)
    (t : String) : (s.detach t p).masked = s.masked.detach t p := by
  refine congrArg (Schema.mk · s.drawn) (s.store.masked_update (fun c => ?_) _)
  simp only [Column.masked, Constraint.masked_eq_renamed, Column.mk.injEq, true_and]
  exact Edit.renamed_filter (fun k => congrArg (!·) (hp k)) c.constraints

theorem masked_attach (s : Schema) (t n : String) (name : Option String) (kind : ConstraintKind) :
    (s.applyEdit naming (.attach t n name kind)).masked =
      s.masked.applyEdit (mask ∘ naming) (.attach t n name kind) := by
  have known : (s.masked.store.column? t n).isNone = (s.store.column? t n).isNone := by
    rw [masked, s.store.column?_masked, Option.isNone_map]
  have attached := s.store.masked_update (q := .column t n)
    (f := fun c => { c with constraints := c.constraints ++ [s.nameConstraint naming kind name] })
    (g := fun c => { c with constraints :=
      c.constraints ++ [s.masked.nameConstraint (mask ∘ naming) kind name] })
    fun c => by simp [Column.masked, masked_nameConstraint]
  simp only [applyEdit, known]
  split
  · rfl
  · cases name with
    | none => exact congrArg (Schema.mk · (s.drawn + 1)) attached
    | some name => exact congrArg (Schema.mk · s.drawn) attached

theorem masked_applyEdit (he : e.droppedName? = none) (s : Schema) :
    (s.applyEdit naming e).masked = s.masked.applyEdit (mask ∘ naming) e := by
  have updated : ∀ {q : Query} {f g : Column → Column}, (∀ c, (f c).masked = g c.masked) →
      Schema.mk (s.store.update q f).masked s.drawn = ⟨s.store.masked.update q g, s.drawn⟩ :=
    fun h => congrArg (Schema.mk · s.drawn) (s.store.masked_update h _)
  cases e with
  | declare t n nullable declaration =>
    exact congrArg (Schema.mk · s.drawn) (s.store.masked_put _ _)
  | dropTable t => exact congrArg (Schema.mk · s.drawn) (s.store.masked_removeMatching _)
  | dropColumn t n => exact congrArg (Schema.mk · s.drawn) (s.store.masked_removeMatching _)
  | attach t n name kind => exact masked_attach naming s t n name kind
  | detachNamed t name => cases he
  | detachPrimaryKeys t name =>
    obtain rfl : name = none := he
    exact masked_detach (fun _ => rfl) s t
  | detachForeignKeys t => exact masked_detach (fun _ => rfl) s t
  | _ => exact updated fun c => rfl

/-- After edits that drop nothing by name, two namings leave the same but for the drawn names. -/
theorem masked_applyEdits : ∀ {es : List Edit}, (∀ e ∈ es, e.droppedName? = none) →
    ∀ {s s' : Schema}, s.masked = s'.masked →
      (s.applyEdits naming es).masked = (s'.applyEdits naming' es).masked
  | [], _, _, _, h => h
  | e :: es, he, s, s', h => by
    have step : (s.applyEdit naming e).masked = (s'.applyEdit naming' e).masked := by
      have first := he e List.mem_cons_self
      rw [masked_applyEdit naming first, masked_applyEdit naming' first, h]
      rfl
    exact masked_applyEdits (fun x hx => he x (List.mem_cons_of_mem e hx)) step

end Schema

end MigrationAudit
