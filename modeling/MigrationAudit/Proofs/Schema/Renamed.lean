import Mathlib.Data.Fintype.EquivFin
import MigrationAudit.Proofs.Schema.Tables

/-!
# Schemas up to drawn names

A renaming gives drawn names another text and leaves declared ones alone; the mask is the renaming
that makes all drawn names one.  An edit that is applied to renamed columns under a renamed naming
does what it does to the columns themselves, as long as the renaming can tell the name under which
the edit drops constraints from all others (`Edit.renamed_onColumns`).  So two schemas that agree
outside some tables up to a renaming agree there after edits of other tables (`Agree.applyEdits`),
and edits of these tables alone do not make a difference (`Agree.frame`).  Two namings that hit the
same names among those to be dropped differ by such a renaming (`Naming.Alike.exists_renaming`).
-/

namespace MigrationAudit

/-! ## Renaming -/

def ConstraintName.renamed (f : String → String) : ConstraintName → ConstraintName
  | declared s => declared s
  | drawn s => drawn (f s)

def Constraint.renamed (f : String → String) (k : Constraint) : Constraint :=
  { k with name := k.name.renamed f }

def Column.renamed (f : String → String) (c : Column) : Column :=
  { c with constraints := c.constraints.map (Constraint.renamed f) }

/-- The renaming that gives all drawn names one text. -/
def mask : String → String := fun _ => "<generated>"

theorem Constraint.masked_eq_renamed : masked = renamed mask := by
  funext ⟨kind, name⟩
  cases name <;> rfl

theorem Column.masked_eq_renamed : masked = renamed mask := by
  funext c
  simp only [masked, renamed, Constraint.masked_eq_renamed]

section Renaming

variable (f g : String → String)

theorem Constraint.renamed_comp : renamed g ∘ renamed f = renamed (g ∘ f) := by
  funext ⟨kind, name⟩
  cases name <;> rfl

theorem Constraint.renamed_id : renamed id = id := by
  funext ⟨kind, name⟩
  cases name <;> rfl

theorem Column.renamed_comp : renamed g ∘ renamed f = renamed (g ∘ f) := by
  funext c
  simp only [renamed, Function.comp_apply, List.map_map, Constraint.renamed_comp]

theorem Column.renamed_id : renamed id = id := by
  funext c
  simp only [renamed, Constraint.renamed_id, List.map_id, id]

@[simp]
theorem Column.identity_renamed (c : Column) : (c.renamed f).identity = c.identity := rfl

end Renaming

/-- A renaming fixes a name if it brings no other one there and does not take it elsewhere. -/
def Fixes (f : String → String) (name : String) : Prop := ∀ s, f s = name ↔ s = name

theorem fixes_id (name : String) : Fixes id name := fun _ => Iff.rfl

theorem ConstraintName.text_renamed_beq {f : String → String} {name : String} (h : Fixes f name)
    (k : ConstraintName) : ((k.renamed f).text == name) = (k.text == name) := by
  cases k with
  | declared s => rfl
  | drawn s => exact Bool.eq_iff_iff.mpr (by simpa [renamed, text] using h s)

theorem Store.masked_ofColumns (cs : List Column) :
    (ofColumns cs).masked = ofColumns (cs.map (Column.renamed mask)) := by
  simp only [masked, ofColumns, List.map_map, ← Column.masked_eq_renamed]
  rfl

/-! ## Edits -/

/-- The edit touches none of the tables, and the renaming fixes the name that it drops. -/
structure Edit.Respects (tables : List String) (f : String → String) (e : Edit) : Prop where
  disjoint : List.Disjoint e.tables tables
  fixes : ∀ name ∈ e.droppedName?, Fixes f name

/-- The change touches none of the tables, and the renaming fixes the names that it drops. -/
structure Change.Respects (tables : List String) (f : String → String) (c : Change) : Prop where
  disjoint : List.Disjoint c.tables tables
  fixes : ∀ name ∈ c.droppedNames, Fixes f name

theorem Change.Respects.edit {tables : List String} {f : String → String} {c : Change}
    (h : c.Respects tables f) {e : Edit} (he : e ∈ c.script.edits) : e.Respects tables f where
  disjoint := List.disjoint_of_subset_left (tables_subset_of_mem_script he) h.disjoint
  fixes _ hn := h.fixes _ (mem_droppedNames he hn)

theorem Column.renamed_placedIn (f : String → String) (c : Column) (cs : List Column) :
    (c.placedIn cs).map (renamed f) = (c.renamed f).placedIn (cs.map (renamed f)) := by
  induction cs with
  | nil => rfl
  | cons d ds ih =>
    by_cases h : d.identity = c.identity
    · simp [placedIn, h]
    · simp [placedIn, h, ih]

namespace Edit

variable {naming : Naming} {drawn : Nat} {f : String → String} {e : Edit}

/-- Constraints that are kept by a test blind to the renaming. -/
theorem renamed_filter {p : Constraint → Bool} (hp : ∀ k, p (k.renamed f) = p k)
    (ks : List Constraint) :
    (ks.filter p).map (Constraint.renamed f) = (ks.map (Constraint.renamed f)).filter p := by
  rw [List.filter_map]
  exact congrArg _ (List.filter_congr fun k _ => (hp k).symm)

theorem renamed_revise (hf : ∀ name ∈ e.droppedName?, Fixes f name) (c : Column) :
    (e.revise naming drawn c).renamed f = e.revise (f ∘ naming) drawn (c.renamed f) := by
  cases e with
  | attach t n name kind =>
    cases name <;>
      simp [revise, Column.renamed, Schema.nameConstraint, Constraint.renamed,
        ConstraintName.renamed]
  | detachNamed t name =>
    simp only [revise, Column.renamed, Column.mk.injEq, true_and]
    exact renamed_filter
      (fun k => congrArg (!·) (ConstraintName.text_renamed_beq (hf name rfl) k.name)) _
  | detachPrimaryKeys t name =>
    simp only [revise, Column.renamed, Column.mk.injEq, true_and]
    refine renamed_filter (fun k => ?_) _
    cases name with
    | none => rfl
    | some name =>
      have hname := ConstraintName.text_renamed_beq (hf name rfl) k.name
      simp only [Constraint.renamed, Option.some_beq_some, hname]
  | detachForeignKeys t =>
    simp only [revise, Column.renamed, Column.mk.injEq, true_and]
    exact renamed_filter (fun _ => rfl) _
  | _ => rfl

theorem renamed_updated (hf : ∀ name ∈ e.droppedName?, Fixes f name) (cs : List Column) :
    (cs.map (Column.updated e.query (e.revise naming drawn))).map (Column.renamed f) =
      (cs.map (Column.renamed f)).map
        (Column.updated e.query (e.revise (f ∘ naming) drawn)) := by
  rw [List.map_map, List.map_map]
  refine List.map_congr_left fun c _ => ?_
  by_cases h : c.identity.matches e.query = true
  · simpa [Column.updated, h] using renamed_revise hf c
  · simp [Column.updated, h]

theorem renamed_onColumns (hf : ∀ name ∈ e.droppedName?, Fixes f name) (cs : List Column) :
    (e.onColumns naming drawn cs).map (Column.renamed f) =
      e.onColumns (f ∘ naming) drawn (cs.map (Column.renamed f)) := by
  cases e with
  | declare t n nullable declaration => exact Column.renamed_placedIn f _ cs
  | dropTable t => simp only [onColumns, List.filter_map]; rfl
  | dropColumn t n => simp only [onColumns, List.filter_map]; rfl
  | _ => exact renamed_updated hf cs

theorem draws_renamed (f : String → String) (cs : List Column) :
    e.draws (cs.map (Column.renamed f)) = e.draws cs := by
  cases e with
  | attach t n name kind =>
    cases name with
    | none => simp only [draws, List.any_map]; rfl
    | some name => rfl
  | _ => rfl

/-- Of a naming only the name that is drawn matters. -/
theorem onColumns_congr {naming' : Naming} {drawn' : Nat} {cs : List Column}
    (h : e.draws cs ≠ 0 → naming drawn = naming' drawn') :
    e.onColumns naming drawn cs = e.onColumns naming' drawn' cs := by
  cases e with
  | attach t n name kind =>
    cases name with
    | none =>
      by_cases hn : naming drawn = naming' drawn'
      · have hrevise : revise naming drawn (.attach t n none kind) =
            revise naming' drawn' (.attach t n none kind) := by
          funext c
          simp only [revise, Schema.nameConstraint, hn]
        exact congrArg (fun r => cs.map (Column.updated (.column t n) r)) hrevise
      · have hd : ∀ c ∈ cs, ¬ c.identity.matches (.column t n) = true := by
          simpa [draws] using mt h hn
        exact (map_updated_of_unknown _ hd).trans (map_updated_of_unknown _ hd).symm
    | some name => rfl
  | _ => rfl

end Edit

/-! ## Schemas -/

namespace Schema

/-- What is to be seen of a schema outside some tables, up to a renaming. -/
def sight (tables : List String) (f : String → String) (s : Schema) : List Column :=
  (outside tables s.columns).map (Column.renamed f)

variable {tables : List String} {f : String → String} (naming : Naming) {s : Schema}

theorem drawn_applyEdit (hs : s.Columnar) (e : Edit) :
    (s.applyEdit naming e).drawn = s.drawn + e.draws s.columns := by
  rw [hs.applyEdit_eq]
  rfl

theorem sight_applyEdit (hs : s.Columnar) {e : Edit} (he : e.Respects tables f) :
    (s.applyEdit naming e).sight tables f =
      e.onColumns (f ∘ naming) s.drawn (s.sight tables f) := by
  unfold sight
  rw [hs.columns_applyEdit, Edit.outside_onColumns_of_disjoint naming s.drawn he.disjoint,
    Edit.renamed_onColumns he.fixes]

theorem draws_sight {e : Edit} (he : List.Disjoint e.tables tables) :
    e.draws (s.sight tables f) = e.draws s.columns := by
  unfold sight
  rw [Edit.draws_renamed, Edit.draws_outside he]

theorem drawn_le_applyEdits : ∀ (es : List Edit) {s : Schema}, s.Columnar →
    s.drawn ≤ (s.applyEdits naming es).drawn
  | [], _, _ => le_rfl
  | e :: es, s, hs =>
    have hle : s.drawn ≤ (s.applyEdit naming e).drawn := by
      rw [drawn_applyEdit naming hs]
      exact Nat.le_add_right _ _
    hle.trans (drawn_le_applyEdits es (hs.applyEdit naming e))

/-- Edits that attach nothing draw no names. -/
theorem drawn_applyEdits_eq : ∀ {es : List Edit} {s : Schema}, s.Columnar →
    (∀ e ∈ es, e.attaches = false) → (s.applyEdits naming es).drawn = s.drawn
  | [], _, _, _ => rfl
  | e :: es, s, hs, h => by
    have ih := drawn_applyEdits_eq (hs.applyEdit naming e) fun x hx =>
      h x (List.mem_cons_of_mem e hx)
    have he : (s.applyEdit naming e).drawn = s.drawn := by
      rw [drawn_applyEdit naming hs, Edit.draws_of_not_attaches (h e List.mem_cons_self), Nat.add_zero]
    exact ih.trans he

theorem sight_applyEdits : ∀ {es : List Edit} {s : Schema}, s.Columnar →
    (∀ e ∈ es, e.tables ⊆ tables) → (s.applyEdits naming es).sight tables f = s.sight tables f
  | [], _, _, _ => rfl
  | e :: es, s, hs, h => by
    have hrest : ((s.applyEdit naming e).applyEdits naming es).sight tables f =
        (s.applyEdit naming e).sight tables f :=
      sight_applyEdits (hs.applyEdit naming e) fun x hx => h x (List.mem_cons_of_mem e hx)
    refine hrest.trans ?_
    unfold sight
    rw [hs.columns_applyEdit,
      Edit.outside_onColumns_of_subset naming s.drawn (h e List.mem_cons_self)]

/-- A change of these tables alone leaves the others as they are. -/
theorem sight_replay (hs : s.Columnar) {c : Change} (hc : c.tables ⊆ tables) :
    (s.replay naming c).1.sight tables f = s.sight tables f :=
  sight_applyEdits naming hs fun _ he =>
    List.Subset.trans (Change.tables_subset_of_mem_script he) hc

theorem masked_eq {s' : Schema} (hs : s.Columnar) (hs' : s'.Columnar)
    (h : s.sight [] mask = s'.sight [] mask) : s.store.masked = s'.store.masked := by
  simp only [sight, outside_nil] at h
  rw [hs, hs', Store.masked_ofColumns, Store.masked_ofColumns, h]

/-- Schemas that look alike outside some tables hold the same entries of any other tables. -/
theorem masked_within_eq {s' : Schema} (hs : s.Columnar) (hs' : s'.Columnar)
    (h : s.sight tables mask = s'.sight tables mask) {p : String → Bool}
    (hp : ∀ t, p t = true → t ∉ tables) :
    (s.store.within p).masked = (s'.store.within p).masked := by
  have entries : ∀ r : Schema, r.Columnar → (r.store.within p).masked =
      .ofColumns ((r.sight tables mask).filter fun c => p c.table) := by
    intro r hr
    rw [hr, Store.within_ofColumns, Store.masked_ofColumns,
      ← filter_outside fun c => hp c.table, sight, List.filter_map]
    rfl
  rw [entries s hs, entries s' hs', h]

/-- Two schemas of columns look the same outside some tables up to a renaming, and so many names
more have been drawn for the second. -/
structure Agree (tables : List String) (f : String → String) (more : Nat) (s s' : Schema) :
    Prop where
  columnar : s.Columnar
  columnar' : s'.Columnar
  sight : s.sight tables f = s'.sight tables f
  drawn : s'.drawn = s.drawn + more

namespace Agree

variable {naming naming' : Naming} {more : Nat} {s' : Schema}

theorem refl (hs : s.Columnar) : Agree tables f 0 s s := ⟨hs, hs, rfl, rfl⟩

/-- Without tables and without a renaming, schemas that agree are equal. -/
theorem eq_of_id (h : Agree [] id 0 s s') : s = s' := by
  have hc : s.columns = s'.columns := by
    have hsight := h.sight
    simpa only [Schema.sight, outside_nil, Column.renamed_id, List.map_id] using hsight
  rw [h.columnar.eq_ofColumns, h.columnar'.eq_ofColumns, hc, h.drawn, Nat.add_zero]

theorem applyEdit (h : Agree tables f more s s') {e : Edit} (he : e.Respects tables f)
    (hn : ∀ i, s.drawn ≤ i → i < (s.applyEdit naming e).drawn →
      f (naming i) = f (naming' (i + more))) :
    Agree tables f more (s.applyEdit naming e) (s'.applyEdit naming' e) where
  columnar := h.columnar.applyEdit naming e
  columnar' := h.columnar'.applyEdit naming' e
  sight := by
    rw [sight_applyEdit naming h.columnar he, sight_applyEdit naming' h.columnar' he, ← h.sight]
    refine Edit.onColumns_congr fun hd => ?_
    rw [draws_sight he.disjoint] at hd
    have hname := hn s.drawn le_rfl (by rw [drawn_applyEdit naming h.columnar]; omega)
    rwa [← h.drawn] at hname
  drawn := by
    have hd : e.draws s.columns = e.draws s'.columns := by
      rw [← draws_sight (f := f) he.disjoint, h.sight, draws_sight he.disjoint]
    rw [drawn_applyEdit naming h.columnar, drawn_applyEdit naming' h.columnar', h.drawn, hd]
    omega

/-- Schemas that agree outside some tables agree there after edits of other tables, if the names
that are drawn for the edits are the same up to the renaming. -/
protected theorem applyEdits : ∀ {es : List Edit} {s s' : Schema}, Agree tables f more s s' →
    (∀ e ∈ es, e.Respects tables f) →
    (∀ i, s.drawn ≤ i → i < (s.applyEdits naming es).drawn →
      f (naming i) = f (naming' (i + more))) →
    Agree tables f more (s.applyEdits naming es) (s'.applyEdits naming' es)
  | [], _, _, h, _, _ => h
  | e :: es, s, s', h, he, hn => by
    -- what is drawn for the first edit comes before what is drawn for the rest
    have hlast := drawn_le_applyEdits naming es (h.columnar.applyEdit naming e)
    have hfirst := drawn_le_applyEdits naming [e] h.columnar
    have head := h.applyEdit (he e List.mem_cons_self)
      fun i hi hlt => hn i hi (Nat.lt_of_lt_of_le hlt hlast)
    have tail := Agree.applyEdits head (fun x hx => he x (List.mem_cons_of_mem e hx))
      fun i hi hlt => hn i (Nat.le_trans hfirst hi) hlt
    exact tail

theorem replay (h : Agree tables f more s s') (naming naming' : Naming) {c : Change}
    (hc : c.Respects tables f)
    (hn : ∀ i, s.drawn ≤ i → i < (s.replay naming c).1.drawn →
      f (naming i) = f (naming' (i + more))) :
    Agree tables f more (s.replay naming c).1 (s'.replay naming' c).1 :=
  h.applyEdits (fun _ he => hc.edit he) hn

theorem frame (h : Agree tables f more s s') (naming' : Naming) {c : Change}
    (hc : c.tables ⊆ tables) :
    Agree tables f (more + ((s'.replay naming' c).1.drawn - s'.drawn)) s
      (s'.replay naming' c).1 where
  columnar := h.columnar
  columnar' := h.columnar'.replay naming' c
  sight := h.sight.trans (sight_replay naming' h.columnar' hc).symm
  drawn := by
    have hle := drawn_le_applyEdits naming' c.script.edits h.columnar'
    have hd := h.drawn
    rw [replay_schema]
    omega

/-- Schemas that agree up to a renaming agree up to any coarser one. -/
theorem sight_eq (h : Agree tables f more s s') {g : String → String} (hg : g ∘ f = g) :
    s.sight tables g = s'.sight tables g := by
  have coarser : ∀ r : Schema,
      r.sight tables g = (r.sight tables f).map (Column.renamed g) := by
    intro r
    simp only [Schema.sight, List.map_map, Column.renamed_comp, hg]
  rw [coarser, coarser, h.sight]

end Agree

end Schema

/-! ## Namings -/

namespace Naming

/-- At every draw the namings yield the same one of the names, or neither yields any of them. -/
def Alike (names : List String) (naming naming' : Naming) : Prop :=
  ∀ i, ∀ name ∈ names, naming i = name ↔ naming' i = name

theorem exists_not_mem (names : List String) : ∃ s, s ∉ names := by
  have : Infinite String := Infinite.of_injective String.ofList fun _ _ => String.ofList_inj.mp
  obtain ⟨s, hs⟩ := Infinite.exists_notMem_finset names.toFinset
  exact ⟨s, by simpa using hs⟩

theorem Alike.exists_renaming {names : List String} {naming naming' : Naming}
    (h : Alike names naming naming') :
    ∃ f, (∀ name ∈ names, Fixes f name) ∧ ∀ i, f (naming i) = f (naming' i) := by
  obtain ⟨other, hother⟩ := exists_not_mem names
  refine ⟨fun s => if s ∈ names then s else other, fun name hname s => ?_, fun i => ?_⟩
  · by_cases hs : s ∈ names
    · simp [hs]
    · have hne : s ≠ name := fun heq => hs (heq ▸ hname)
      have hne' : other ≠ name := fun heq => hother (heq ▸ hname)
      simp [hs, hne, hne']
  · by_cases hi : naming i ∈ names
    · have heq : naming' i = naming i := (h i _ hi).mp rfl
      simp [heq]
    · have hi' : naming' i ∉ names := fun hm => hi ((h i _ hm).mpr rfl ▸ hm)
      simp [hi, hi']

end Naming

end MigrationAudit
