import Mathlib.Data.Finset.Card
import Mathlib.Data.Finset.Image
import MigrationAudit.Proofs.Schema.Entries
import MigrationAudit.Proofs.Schema.Lookups

/-!
# The store as an ordered map

An ordered map holds at most one entity under each identity, and remembers since when.  A put and a
removal concern what is held under their own identity (`OrderedMap.holds_put`,
`OrderedMap.holds_remove`).  Putting under an identity that is held, or updating, does not change
the time, though an update may change the identity.

As long as no update brings two entities under one identity, the entries of a store are what such a
map holds, the older first (`Represents.perform`), and the store answers as the map would
(`Represents.answers`), whatever identities the entities would have by themselves.  So it is after
any run of operations from an empty store (`Store.ordered_after`).
-/

namespace MigrationAudit

/-! ## Operations on the store -/

namespace Store

/-- What can be done to a store. -/
inductive Operation where
  | put (id : Identity) (e : Entity)
  | remove (id : Identity)
  | removeMatching (q : Query)
  | removeWhere (p : Identity → Entity → Bool)
  | update (q : Query) (f : Column → Column)

/-- What an operation answers: the entity that had been stored, or how many entries are concerned. -/
inductive Reply where
  | entity (e? : Option Entity)
  | count (n : Nat)

/-- The entity that is replaced by a put, and the entries after it. -/
def replacing (id : Identity) (e : Entity) :
    List (Identity × Entity) → Option Entity × List (Identity × Entity)
  | [] => (none, [(id, e)])
  | p :: ps =>
    if p.1 = id then (some p.2, (id, e) :: ps)
    else ((replacing id e ps).1, p :: (replacing id e ps).2)

/-- The entity that is removed, and the entries without it. -/
def taking (id : Identity) :
    List (Identity × Entity) → Option Entity × List (Identity × Entity)
  | [] => (none, [])
  | p :: ps => if p.1 = id then (some p.2, ps) else ((taking id ps).1, p :: (taking id ps).2)

theorem replacing_entries (s : Store) (id : Identity) (e : Entity) :
    replacing id e s.entries = (s.get? id, (s.put id e).entries) := by
  obtain ⟨entries⟩ := s
  simp only [get?, put]
  induction entries with
  | nil => rfl
  | cons p ps ih =>
    rw [replacing, ih, putEntry]
    by_cases hp : p.1 = id <;> simp [hp]

theorem taking_entries (s : Store) (id : Identity) :
    taking id s.entries = (s.get? id, (s.remove id).entries) := by
  obtain ⟨entries⟩ := s
  simp only [get?, remove]
  induction entries with
  | nil => rfl
  | cons p ps ih =>
    rw [taking, ih, removeEntry]
    by_cases hp : p.1 = id <;> simp [hp]

/-- How the store answers an operation, and what it is then. -/
def perform (s : Store) : Operation → Reply × Store
  | .put id e => ((replacing id e s.entries).map .entity Store.mk)
  | .remove id => ((taking id s.entries).map .entity Store.mk)
  | .removeMatching q => (.count (s.size - (s.removeMatching q).size), s.removeMatching q)
  | .removeWhere p => (.count (s.size - (s.removeWhere p).size), s.removeWhere p)
  | .update q f =>
    (.count (updateCounting q f s.entries).2, ⟨(updateCounting q f s.entries).1⟩)

variable (s : Store)

theorem perform_put (id : Identity) (e : Entity) :
    s.perform (.put id e) = (.entity (s.get? id), s.put id e) := by
  rw [perform, replacing_entries]
  rfl

theorem perform_remove (id : Identity) :
    s.perform (.remove id) = (.entity (s.get? id), s.remove id) := by
  rw [perform, taking_entries]
  rfl

theorem perform_update (q : Query) (f : Column → Column) :
    s.perform (.update q f) = (.count (s.updateCount q), s.update q f) := by
  rw [perform, updateCounting_entries]

/-- The store after operations. -/
def after (s : Store) (ops : List Operation) : Store := ops.foldl (fun s op => (s.perform op).2) s

/-- The operation does not bring two entries under one identity as an update. -/
def Separates (s : Store) : Operation → Prop
  | .update q f => (s.update q f).keys.Nodup
  | _ => True

instance (s : Store) : DecidablePred s.Separates
  | .update q f => inferInstanceAs (Decidable (s.update q f).keys.Nodup)
  | .put _ _ | .remove _ | .removeMatching _ | .removeWhere _ => isTrue trivial

/-- No update of the run brings two entries under one identity. -/
def Separate (s : Store) : List Operation → Prop
  | [] => True
  | op :: ops => s.Separates op ∧ Separate (s.perform op).2 ops

instance decidableSeparate : (s : Store) → (ops : List Operation) → Decidable (s.Separate ops)
  | _, [] => isTrue trivial
  | s, op :: ops =>
    have := decidableSeparate (s.perform op).2 ops
    inferInstanceAs (Decidable (s.Separates op ∧ _))

end Store

/-! ## Ordered maps -/

/-- An entity that is held under an identity, and since when. -/
structure Holding where
  since : Nat
  identity : Identity
  entity : Entity
  deriving DecidableEq

namespace Holding

def entry (h : Holding) : Identity × Entity := (h.identity, h.entity)

/-- The holding with another entity if it is under the identity. -/
def replaced (id : Identity) (e : Entity) (h : Holding) : Holding :=
  if h.identity = id then { h with entity := e } else h

/-- The holding after an update of the columns that a query finds. -/
def updated (q : Query) (f : Column → Column) (h : Holding) : Holding :=
  match h.entity with
  | .column c =>
    if h.identity.matches q then { h with identity := (f c).identity, entity := .column (f c) }
    else h
  | .constraint _ => h

@[simp]
theorem replaced_since (id : Identity) (e : Entity) (h : Holding) :
    (h.replaced id e).since = h.since := by
  unfold replaced
  split <;> rfl

@[simp]
theorem replaced_identity (id : Identity) (e : Entity) (h : Holding) :
    (h.replaced id e).identity = h.identity := by
  unfold replaced
  split <;> rfl

@[simp]
theorem updated_since (q : Query) (f : Column → Column) (h : Holding) :
    (h.updated q f).since = h.since := by
  obtain ⟨since, id, c | c⟩ := h
  · by_cases hq : id.matches q = true <;> simp [updated, hq]
  · rfl

theorem entry_replaced (id : Identity) (e : Entity) (h : Holding) :
    (h.replaced id e).entry = if h.identity = id then (id, e) else h.entry := by
  by_cases hid : h.identity = id <;> simp [replaced, entry, hid]

theorem entry_updated (q : Query) (f : Column → Column) (h : Holding) :
    (h.updated q f).entry = Store.updateEntry q f h.entry := by
  obtain ⟨since, id, c | c⟩ := h <;> by_cases hq : id.matches q = true <;>
    simp [updated, Store.updateEntry, entry, hq]

end Holding

/-- What is held, and how many operations there have been. -/
structure OrderedMap where
  clock : Nat
  holdings : Finset Holding

namespace OrderedMap

def empty : OrderedMap := ⟨0, ∅⟩

def Holds (m : OrderedMap) (id : Identity) (e : Entity) : Prop :=
  ∃ since, ⟨since, id, e⟩ ∈ m.holdings

def identities (m : OrderedMap) : Finset Identity := m.holdings.image Holding.identity

/-- What is held after an operation. -/
def change (m : OrderedMap) : Store.Operation → Finset Holding
  | .put id e =>
    if id ∈ m.identities then m.holdings.image (Holding.replaced id e)
    else insert ⟨m.clock, id, e⟩ m.holdings
  | .remove id => m.holdings.filter (·.identity ≠ id)
  | .removeMatching q => m.holdings.filter fun h => ¬ h.identity.matches q
  | .removeWhere p => m.holdings.filter fun h => ¬ p h.identity h.entity
  | .update q f => m.holdings.image (Holding.updated q f)

theorem mem_identities {m : OrderedMap} {id : Identity} :
    id ∈ m.identities ↔ ∃ e, m.Holds id e := by
  simp only [identities, Finset.mem_image, Holds]
  constructor
  · rintro ⟨x, hx, rfl⟩
    exact ⟨x.entity, x.since, hx⟩
  · rintro ⟨e, since, hx⟩
    exact ⟨_, hx, rfl⟩

def perform (m : OrderedMap) (op : Store.Operation) : OrderedMap := ⟨m.clock + 1, m.change op⟩

def after (m : OrderedMap) (ops : List Store.Operation) : OrderedMap := ops.foldl perform m

variable (m : OrderedMap) (id id' : Identity) (e e' : Entity)

theorem holds_put :
    (m.perform (.put id e)).Holds id' e' ↔ if id' = id then e' = e else m.Holds id' e' := by
  rw [perform, change]
  by_cases hid : id ∈ m.identities
  · simp only [if_pos hid, Holds, Finset.mem_image]
    constructor
    · rintro ⟨since, x, hx, heq⟩
      by_cases hxid : x.identity = id
      · obtain ⟨-, rfl, rfl⟩ : x.since = since ∧ id = id' ∧ e = e' := by
          simpa [Holding.replaced, hxid] using heq
        exact if_pos rfl ▸ rfl
      · obtain rfl : x = ⟨since, id', e'⟩ := by simpa [Holding.replaced, hxid] using heq
        rw [if_neg hxid]
        exact ⟨since, hx⟩
    · intro h
      split at h
      · next heq =>
        obtain ⟨x, hx, rfl⟩ := Finset.mem_image.mp hid
        exact ⟨x.since, x, hx, by simp [Holding.replaced, h, heq]⟩
      · next hne =>
        obtain ⟨since, hx⟩ := h
        exact ⟨since, _, hx, by simp [Holding.replaced, hne]⟩
  · simp only [if_neg hid, Holds, Finset.mem_insert, Holding.mk.injEq]
    by_cases heq : id' = id
    · subst heq
      have absent : ∀ since, ⟨since, id', e'⟩ ∉ m.holdings := fun since h =>
        hid (mem_identities.mpr ⟨e', since, h⟩)
      simp [absent]
    · simp [heq]

theorem holds_remove :
    (m.perform (.remove id)).Holds id' e' ↔ id' ≠ id ∧ m.Holds id' e' := by
  simp [perform, change, Holds, and_comm]

/-- The reply is what is held under an identity, or the number of holdings that are removed or
updated. -/
def Answers (m : OrderedMap) : Store.Operation → Store.Reply → Prop
  | .put id _, .entity e? | .remove id, .entity e? => ∀ e, e? = some e ↔ m.Holds id e
  | .removeMatching q, .count n => n = (m.holdings.filter fun h => h.identity.matches q).card
  | .removeWhere p, .count n => n = (m.holdings.filter fun h => p h.identity h.entity).card
  | .update q _, .count n =>
    n = (m.holdings.filter fun h => h.identity.matches q ∧ h.entity.column?.isSome).card
  | _, _ => False

end OrderedMap

/-! ## Stores and the maps that they represent -/

/-- The store with the holdings as entries. -/
def Store.ofHoldings (hs : List Holding) : Store := ⟨hs.map Holding.entry⟩

/-- The list has what the map holds, the older holdings first, and each under its own identity. -/
structure OrderedMap.Listed (m : OrderedMap) (hs : List Holding) : Prop where
  holdings : hs.toFinset = m.holdings
  ordered : hs.Pairwise fun h h' => h.since < h'.since
  past : ∀ h ∈ hs, h.since < m.clock
  distinct : (hs.map Holding.identity).Nodup

/-- The entries of the store are the holdings of the map in their order. -/
def Represents (m : OrderedMap) (s : Store) : Prop :=
  ∃ hs, m.Listed hs ∧ s = .ofHoldings hs

namespace OrderedMap.Listed

variable {m : OrderedMap} {hs : List Holding}

theorem nodup (h : m.Listed hs) : hs.Nodup := h.distinct.of_map _

theorem mem_iff (h : m.Listed hs) {x : Holding} : x ∈ hs ↔ x ∈ m.holdings := by
  rw [← h.holdings, List.mem_toFinset]

theorem mem_identities_iff (h : m.Listed hs) {id : Identity} :
    id ∈ hs.map Holding.identity ↔ id ∈ m.identities := by
  simp only [identities, List.mem_map, Finset.mem_image, h.mem_iff]

theorem card_filter (h : m.Listed hs) (p : Holding → Prop) [DecidablePred p] :
    (m.holdings.filter p).card = (hs.filter fun x => p x).length := by
  rw [← List.toFinset_card_of_nodup (h.nodup.filter _), ← h.holdings]
  congr 1
  ext x
  simp

/-- Some of the holdings are left. -/
theorem filter (h : m.Listed hs) (p : Holding → Prop) [DecidablePred p] (clock : Nat)
    (hclock : m.clock ≤ clock) :
    Listed ⟨clock, m.holdings.filter p⟩ (hs.filter fun x => p x) where
  holdings := by
    ext x
    simp [← h.holdings]
  ordered := h.ordered.filter _
  past := fun x hx => (h.past x (List.mem_filter.mp hx).1).trans_le hclock
  distinct := h.distinct.sublist (List.filter_sublist.map _)

/-- All holdings are kept in their time. -/
theorem map (h : m.Listed hs) {f : Holding → Holding} (hf : ∀ x, (f x).since = x.since)
    (hdistinct : ((hs.map f).map Holding.identity).Nodup) (clock : Nat)
    (hclock : m.clock ≤ clock) : Listed ⟨clock, m.holdings.image f⟩ (hs.map f) where
  holdings := by
    ext x
    simp [← h.holdings]
  ordered := by simpa [List.pairwise_map, hf] using h.ordered
  past := by simpa [hf] using fun x hx => (h.past x hx).trans_le hclock
  distinct := hdistinct

end OrderedMap.Listed

namespace Store

variable {hs : List Holding} {x : Holding} {id : Identity} {e : Entity}

theorem keys_ofHoldings (hs : List Holding) : (ofHoldings hs).keys = hs.map Holding.identity := by
  rw [keys, ofHoldings, List.map_map]
  rfl

theorem size_ofHoldings (hs : List Holding) : (ofHoldings hs).size = hs.length :=
  hs.length_map Holding.entry

theorem ne_of_distinct (distinct : ((x :: hs).map Holding.identity).Nodup) :
    ∀ y ∈ hs, y.identity ≠ x.identity := fun _ hy heq =>
  (List.nodup_cons.mp distinct).1 (heq ▸ List.mem_map_of_mem hy)

theorem put_ofHoldings_of_mem (distinct : (hs.map Holding.identity).Nodup)
    (h : id ∈ hs.map Holding.identity) :
    (ofHoldings hs).put id e = ofHoldings (hs.map (Holding.replaced id e)) := by
  rw [put, ofHoldings, ofHoldings, mk.injEq]
  induction hs with
  | nil => simp at h
  | cons x hs ih =>
    rw [List.map_cons, List.map_cons, List.map_cons, putEntry, Holding.entry_replaced]
    by_cases hx : x.identity = id
    · -- the identity is distinct, so no other holding is replaced
      have rest : hs.map (Holding.replaced id e) = hs := by
        refine (List.map_congr_left fun y hy => ?_).trans (List.map_id hs)
        exact if_neg (hx ▸ ne_of_distinct distinct y hy)
      rw [if_pos hx, rest]
      exact if_pos hx
    · have h : id ∈ hs.map Holding.identity := (List.mem_cons.mp h).resolve_left (Ne.symm hx)
      rw [if_neg hx, ih (List.nodup_cons.mp distinct).2 h]
      exact if_neg hx

theorem put_ofHoldings_of_not_mem (h : id ∉ hs.map Holding.identity) (since : Nat) :
    (ofHoldings hs).put id e = ofHoldings (hs ++ [⟨since, id, e⟩]) := by
  rw [put, ofHoldings, ofHoldings, mk.injEq]
  induction hs with
  | nil => rfl
  | cons x hs ih =>
    rw [List.map_cons, List.mem_cons, not_or] at h
    rw [List.cons_append, List.map_cons, List.map_cons, putEntry, ih h.2]
    exact if_neg (Ne.symm h.1)

theorem remove_ofHoldings (distinct : (hs.map Holding.identity).Nodup) :
    (ofHoldings hs).remove id = ofHoldings (hs.filter fun x => x.identity ≠ id) := by
  rw [remove, ofHoldings, ofHoldings, mk.injEq]
  induction hs with
  | nil => rfl
  | cons x hs ih =>
    rw [List.map_cons, removeEntry]
    by_cases hx : x.identity = id
    · have rest : hs.filter (fun y => y.identity ≠ id) = hs :=
        List.filter_eq_self.mpr fun y hy => decide_eq_true (hx ▸ ne_of_distinct distinct y hy)
      rw [List.filter_cons_of_neg (by simpa using hx), rest]
      exact if_pos hx
    · rw [List.filter_cons_of_pos (by simpa using hx), ih (List.nodup_cons.mp distinct).2]
      exact if_neg hx

theorem get?_ofHoldings (distinct : (hs.map Holding.identity).Nodup) :
    (ofHoldings hs).get? id = some e ↔ ∃ since, ⟨since, id, e⟩ ∈ hs := by
  rw [get?, ofHoldings]
  induction hs with
  | nil => simp
  | cons x hs ih =>
    rw [List.map_cons, List.find?_cons]
    by_cases hx : x.identity = id
    · have hfirst : (x.entry.1 == id) = true := by simpa [Holding.entry] using hx
      rw [hfirst, Option.map_some, Option.some.injEq]
      constructor
      · rintro rfl
        exact ⟨x.since, hx ▸ List.mem_cons_self⟩
      · rintro ⟨since, h⟩
        rcases List.mem_cons.mp h with rfl | h
        · rfl
        · exact absurd hx.symm (ne_of_distinct distinct _ h)
    · have hfirst : (x.entry.1 == id) = false := by simpa [Holding.entry] using hx
      rw [hfirst]
      refine (ih (List.nodup_cons.mp distinct).2).trans (exists_congr fun since => ?_)
      rw [List.mem_cons, or_iff_right]
      rintro rfl
      exact hx rfl

theorem removeWhere_ofHoldings (p : Identity → Entity → Bool) (hs : List Holding) :
    (ofHoldings hs).removeWhere p = ofHoldings (hs.filter fun x => ¬ p x.identity x.entity) := by
  rw [removeWhere, ofHoldings, ofHoldings, mk.injEq, List.filter_map]
  exact congrArg (List.map _) (List.filter_congr fun x _ => by simp [Holding.entry])

theorem update_ofHoldings (q : Query) (f : Column → Column) (hs : List Holding) :
    (ofHoldings hs).update q f = ofHoldings (hs.map (Holding.updated q f)) := by
  rw [update, ofHoldings, ofHoldings, mk.injEq, List.map_map, List.map_map]
  exact List.map_congr_left fun x _ => (x.entry_updated q f).symm

theorem updateCount_ofHoldings (q : Query) (hs : List Holding) :
    (ofHoldings hs).updateCount q =
      (hs.filter fun x => x.identity.matches q ∧ x.entity.column?.isSome).length := by
  rw [updateCount, columns, matching, List.length_filterMap_eq_countP, List.countP_map,
    List.countP_filter, ofHoldings, List.countP_map, ← List.countP_eq_length_filter]
  exact List.countP_congr fun x _ => by simp [Holding.entry, and_comm]

end Store

namespace OrderedMap.Listed

variable {m : OrderedMap} {hs : List Holding}

theorem put_of_mem (h : m.Listed hs) {id : Identity} (hid : id ∈ hs.map Holding.identity)
    (e : Entity) : (m.perform (.put id e)).Listed (hs.map (Holding.replaced id e)) := by
  rw [perform, change, if_pos (h.mem_identities_iff.mp hid)]
  refine h.map (fun x => x.replaced_since id e) ?_ _ (Nat.le_succ _)
  have same : (hs.map (Holding.replaced id e)).map Holding.identity = hs.map Holding.identity := by
    rw [List.map_map]
    exact List.map_congr_left fun x _ => x.replaced_identity id e
  exact same ▸ h.distinct

theorem put_of_not_mem (h : m.Listed hs) {id : Identity} (hid : id ∉ hs.map Holding.identity)
    (e : Entity) : (m.perform (.put id e)).Listed (hs ++ [⟨m.clock, id, e⟩]) := by
  rw [perform, change, if_neg (mt h.mem_identities_iff.mpr hid)]
  constructor
  · ext x
    simp [← h.holdings, or_comm]
  · refine List.pairwise_append.mpr ⟨h.ordered, List.pairwise_singleton _ _, fun x hx y hy => ?_⟩
    obtain rfl := List.mem_singleton.mp hy
    exact h.past x hx
  · intro x hx
    rcases List.mem_append.mp hx with hx | hx
    · exact (h.past x hx).trans (Nat.lt_succ_self _)
    · obtain rfl := List.mem_singleton.mp hx
      exact Nat.lt_succ_self _
  · rw [List.map_append, List.nodup_append]
    refine ⟨h.distinct, List.nodup_singleton _, fun a ha b hb => ?_⟩
    obtain rfl := List.mem_singleton.mp hb
    exact fun hab => hid (hab ▸ ha)

end OrderedMap.Listed

namespace Represents

variable {m : OrderedMap} {s : Store}

theorem empty : Represents .empty .empty := by
  refine ⟨[], ⟨rfl, .nil, ?_, .nil⟩, rfl⟩
  simp

theorem perform (h : Represents m s) {op : Store.Operation} (hop : s.Separates op) :
    Represents (m.perform op) (s.perform op).2 := by
  obtain ⟨hs, listed, rfl⟩ := h
  have later : m.clock ≤ m.clock + 1 := Nat.le_succ _
  cases op with
  | put id e =>
    rw [Store.perform_put]
    by_cases hid : id ∈ hs.map Holding.identity
    · exact ⟨_, listed.put_of_mem hid e, Store.put_ofHoldings_of_mem listed.distinct hid⟩
    · exact ⟨_, listed.put_of_not_mem hid e, Store.put_ofHoldings_of_not_mem hid m.clock⟩
  | remove id =>
    rw [Store.perform_remove]
    exact ⟨_, listed.filter (·.identity ≠ id) _ later, Store.remove_ofHoldings listed.distinct⟩
  | removeMatching q =>
    exact ⟨_, listed.filter (fun h => ¬ h.identity.matches q) _ later,
      Store.removeWhere_ofHoldings (fun id _ => id.matches q) hs⟩
  | removeWhere p =>
    exact ⟨_, listed.filter (fun h => ¬ p h.identity h.entity) _ later,
      Store.removeWhere_ofHoldings p hs⟩
  | update q f =>
    rw [Store.perform_update]
    have distinct : ((hs.map (Holding.updated q f)).map Holding.identity).Nodup := by
      rwa [Store.Separates, Store.update_ofHoldings, Store.keys_ofHoldings] at hop
    exact ⟨_, listed.map (fun x => x.updated_since q f) distinct _ later,
      Store.update_ofHoldings q f hs⟩

theorem after {ops : List Store.Operation} (h : Represents m s) (hops : s.Separate ops) :
    Represents (m.after ops) (s.after ops) := by
  induction ops generalizing m s with
  | nil => exact h
  | cons op ops ih => exact ih (h.perform hops.1) hops.2

theorem holds_iff (h : Represents m s) (id : Identity) (e : Entity) :
    s.get? id = some e ↔ m.Holds id e := by
  obtain ⟨hs, listed, rfl⟩ := h
  simp only [Store.get?_ofHoldings listed.distinct, OrderedMap.Holds, listed.mem_iff]

theorem size_eq (h : Represents m s) : s.size = m.identities.card := by
  obtain ⟨hs, listed, rfl⟩ := h
  have hidentities : m.identities = (hs.map Holding.identity).toFinset := by
    ext id
    rw [List.mem_toFinset, listed.mem_identities_iff]
  rw [Store.size_ofHoldings, hidentities, List.toFinset_card_of_nodup listed.distinct,
    List.length_map]

theorem removed_eq {hs : List Holding} (listed : m.Listed hs) (p : Identity → Entity → Bool) :
    (Store.ofHoldings hs).size - ((Store.ofHoldings hs).removeWhere p).size =
      (m.holdings.filter fun h => p h.identity h.entity).card := by
  have total := hs.length_eq_length_filter_add fun x => p x.identity x.entity
  rw [listed.card_filter, Store.removeWhere_ofHoldings, Store.size_ofHoldings,
    Store.size_ofHoldings]
  simp only [Bool.decide_eq_true, Bool.not_eq_true, Bool.decide_eq_false] at total ⊢
  omega

/-- The store answers as the map would. -/
theorem answers (h : Represents m s) (op : Store.Operation) : m.Answers op (s.perform op).1 := by
  have found := h.holds_iff
  obtain ⟨hs, listed, rfl⟩ := h
  cases op with
  | put id e =>
    rw [Store.perform_put]
    exact found id
  | remove id =>
    rw [Store.perform_remove]
    exact found id
  | removeMatching q => exact removed_eq listed fun id _ => id.matches q
  | removeWhere p => exact removed_eq listed p
  | update q f =>
    rw [Store.perform_update]
    exact (Store.updateCount_ofHoldings q hs).trans (listed.card_filter _).symm

end Represents

namespace Store

/-- After any run from an empty store in which no update brings two entries under one identity, the
store answers as an ordered map after the run would, and has its entries in the order of the map. -/
theorem ordered_after (ops : List Operation) (h : empty.Separate ops) :
    let s := empty.after ops
    let m := OrderedMap.empty.after ops
    (∀ op, m.Answers op (s.perform op).1) ∧
      (∀ id e, s.get? id = some e ↔ m.Holds id e) ∧
      (∀ x ∈ m.holdings, ∀ y ∈ m.holdings, x.identity = y.identity → x = y) ∧
      (∃ hs : List Holding, hs.toFinset = m.holdings ∧ hs.Pairwise (·.since < ·.since) ∧
        s.entries = hs.map Holding.entry) ∧
      s.size = m.identities.card := by
  have represents := Represents.empty.after h
  obtain ⟨hs, listed, hs_eq⟩ := id represents
  refine ⟨represents.answers, represents.holds_iff, fun x hx y hy hxy => ?_,
    ⟨hs, listed.holdings, listed.ordered, congrArg entries hs_eq⟩, represents.size_eq⟩
  exact List.inj_on_of_nodup_map listed.distinct (listed.mem_iff.mpr hx) (listed.mem_iff.mpr hy) hxy

/-- A column is put under an identity that is not its own, and then has to give up the identity. -/
def vacating : List Operation :=
  [.put (.column "t" "a") (.column (.fresh "t" "a")),
    .put (.constraint "t") (.constraint ⟨.index, .declared "t"⟩),
    .put (.column "t" "b") (.column (.fresh "t" "b")),
    .put (.column "t" "a") (.column (.fresh "u" "a")),
    .update (.column "t" "a") fun c => { c with nullable := false },
    .put (.column "t" "a") (.column (.fresh "t" "a")),
    .remove (.column "t" "b")]

theorem ordered_after_vacating :
    empty.Separate vacating ∧
      (empty.after vacating).keys = [.column "u" "a", .constraint "t", .column "t" "a"] ∧
      (∃ since, ⟨since, .constraint "t", .constraint ⟨.index, .declared "t"⟩⟩ ∈
        (OrderedMap.empty.after vacating).holdings) ∧
      (OrderedMap.empty.after vacating).identities.card = 3 :=
  ⟨by decide, by decide, ((ordered_after vacating (by decide)).2.1 _ _).mp (by decide),
    (ordered_after vacating (by decide)).2.2.2.2.symm.trans (by decide)⟩

end Store

end MigrationAudit
