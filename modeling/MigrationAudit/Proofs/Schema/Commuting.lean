import MigrationAudit.Proofs.Changelog.Plain
import MigrationAudit.Proofs.Schema.Renamed

/-!
# Changes on disjoint tables

Two changes that touch no table in common may be replayed in either order: each fails or succeeds
as it does in the other order, and every table ends up with the same entries in the same order, up
to the names drawn for constraints (`Schema.replay_comm`).  The stores as wholes may well differ,
for a column is put at the end of the store and not at the end of its table.
-/

namespace MigrationAudit

namespace Schema

variable {s : Schema} {c d : Change}

/-- What a change does outside the tables of another one does not depend on which comes first. -/
theorem sight_replay_comm (hs : s.Columnar) (h : List.Disjoint c.tables d.tables)
    (naming naming' : Naming) :
    ((s.replay naming c).1.replay naming d).1.sight d.tables mask =
      ((s.replay naming' d).1.replay naming' c).1.sight d.tables mask := by
  have own : d.tables ⊆ d.tables := List.Subset.refl _
  have last : ((s.replay naming c).1.replay naming d).1.sight d.tables mask =
      (s.replay naming c).1.sight d.tables mask :=
    sight_replay naming (hs.replay naming c) own
  rw [last]
  cases hatt : c.element.attaches with
  | true =>
    -- the change drops nothing by name, so drawn names do not matter to it
    have hc : c.Respects d.tables mask := ⟨h, by simp [Change.droppedNames_eq_nil hatt]⟩
    have first := (Agree.refl (f := mask) hs).frame naming' own
    exact (first.replay naming naming' hc fun _ _ _ => rfl).sight
  | false =>
    -- the change draws no names, so it finds the same ones in both orders
    have hc : c.Respects d.tables id := ⟨h, fun name _ => fixes_id name⟩
    have drawn : (s.replay naming c).1.drawn = s.drawn :=
      drawn_applyEdits_eq naming hs fun _ he => Change.not_attaches_of_mem_script hatt he
    have first := (Agree.refl (f := id) hs).frame naming' own
    have both := first.replay naming naming' hc fun i hi hlt => by omega
    exact both.sight_eq rfl

/-- Changes that touch no table in common commute: in either order each of them fails or succeeds in
the same way, and every table ends up with the same entries in the same order. -/
theorem replay_comm {naming₀ : Naming} (hs : s.Reachable naming₀)
    (h : List.Disjoint c.tables d.tables) (naming naming' : Naming) :
    (s.replay naming c).2 = ((s.replay naming' d).1.replay naming' c).2 ∧
      ((s.replay naming c).1.replay naming d).2 = (s.replay naming' d).2 ∧
      ∀ t, (((s.replay naming c).1.replay naming d).1.store.within (· == t)).masked =
        (((s.replay naming' d).1.replay naming' c).1.store.within (· == t)).masked := by
  refine ⟨rfl, rfl, fun t => ?_⟩
  have hcd := (hs.columnar.replay naming c).replay naming d
  have hdc := (hs.columnar.replay naming' d).replay naming' c
  by_cases ht : t ∈ d.tables
  · have htc : t ∉ c.tables := fun hc => h hc ht
    have look := (sight_replay_comm hs.columnar h.symm naming' naming).symm
    exact masked_within_eq hcd hdc look fun u hu => (beq_iff_eq.mp hu).symm ▸ htc
  · have look := sight_replay_comm hs.columnar h naming naming'
    exact masked_within_eq hcd hdc look fun u hu => (beq_iff_eq.mp hu).symm ▸ ht

/-- A column with a nameless key, added to a table. -/
def keyAddedTo (t : String) : Change :=
  .ofTexts .addColumn [(.tableName, t)]
    [⟨[(.name, .text "id")], some ⟨[(.primaryKey, .flag true)]⟩⟩]

theorem replay_comm_of_keys_added :
    (empty.replay (fun _ => "p") (keyAddedTo "t")).2 =
        ((empty.replay (fun _ => "q") (keyAddedTo "u")).1.replay (fun _ => "q")
          (keyAddedTo "t")).2 ∧
      ((empty.replay (fun _ => "p") (keyAddedTo "t")).1.replay (fun _ => "p")
        (keyAddedTo "u")).2 = (empty.replay (fun _ => "q") (keyAddedTo "u")).2 ∧
      ∀ t, (((empty.replay (fun _ => "p") (keyAddedTo "t")).1.replay (fun _ => "p")
          (keyAddedTo "u")).1.store.within (· == t)).masked =
        (((empty.replay (fun _ => "q") (keyAddedTo "u")).1.replay (fun _ => "q")
          (keyAddedTo "t")).1.store.within (· == t)).masked :=
  replay_comm (⟨[], rfl⟩ : empty.Reachable fun _ => "p") (List.disjoint_left.mpr (by decide)) _ _

/-- The stores as wholes list the columns in the order in which they were put. -/
example : ((empty.replay (fun _ => "p") (keyAddedTo "t")).1.replay (fun _ => "p")
      (keyAddedTo "u")).1.store.keys ≠
    ((empty.replay (fun _ => "p") (keyAddedTo "u")).1.replay (fun _ => "p")
      (keyAddedTo "t")).1.store.keys := by
  decide +kernel

end Schema

end MigrationAudit
