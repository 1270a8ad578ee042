import MigrationAudit.Schema.Store

/-!
# Entries under distinct identities

Putting many entities leaves the stored identities where they are and appends the new ones as they
first occur (`Store.keys_putAll`), the last entity put under an identity is the one found there
(`Store.get?_putAll`), and no other entry is touched (`Store.filter_put`).  Where the identities in
a store are distinct, updating the column under one of them is putting it again
(`Store.update_eq_put`).
-/

namespace MigrationAudit.Store

variable (s : Store) (id : Identity) (e : Entity)

theorem get?_put (id' : Identity) :
    (s.put id e).get? id' = if id = id' then some e else s.get? id' := by
  obtain ⟨entries⟩ := s
  simp only [put, get?]
  induction entries with
  | nil => by_cases h : id = id' <;> simp [putEntry, h]
  | cons p ps ih =>
    unfold putEntry
    split
    · next hp =>
      subst hp
      by_cases h : p.1 = id' <;> simp [h]
    · next hp =>
      by_cases h : p.1 = id'
      · simp [h, Ne.symm (h ▸ hp)]
      · simpa [h] using ih

/-- What does not concern the identity does not tell the put. -/
theorem filter_put {p : Identity → Bool} (h : p id = false) :
    (s.put id e).entries.filter (p ·.1) = s.entries.filter (p ·.1) := by
  obtain ⟨entries⟩ := s
  simp only [put]
  induction entries with
  | nil => simp [putEntry, h]
  | cons q qs ih =>
    unfold putEntry
    split
    · next hq => simp [hq, h]
    · simp only [List.filter_cons, ih]

variable {s id}

theorem mem_keys_of_get? {e : Entity} (h : s.get? id = some e) : id ∈ s.keys := by
  obtain ⟨p, hp, -⟩ := Option.map_eq_some_iff.mp h
  have hid : p.1 = id := by simpa using List.find?_some hp
  exact hid ▸ List.mem_map_of_mem (List.mem_of_find?_eq_some hp)

theorem nodup_keys_put (h : s.keys.Nodup) (id : Identity) (e : Entity) :
    (s.put id e).keys.Nodup := by
  by_cases hid : id ∈ s.keys
  · rwa [keys_put_of_mem hid]
  · rw [keys_put_of_not_mem hid, List.nodup_append]
    refine ⟨h, by simp, fun id' hid' key hkey => ?_⟩
    rw [List.mem_singleton.mp hkey]
    rintro rfl
    exact hid hid'

/-! ## Columns -/

variable {t n : String} {c : Column}

theorem column?_of_get? (h : s.get? (.column t n) = some (.column c)) :
    s.column? t n = some c := by
  obtain ⟨entries⟩ := s
  simp only [get?, column?, columns, matching] at h ⊢
  induction entries with
  | nil => simp at h
  | cons p ps ih =>
    by_cases hp : p.1 = .column t n
    · have he : p.2 = .column c := by simpa [hp] using h
      simp [matches_column_iff.mpr hp, he, Entity.column?]
    · have hm : ¬ p.1.matches (.column t n) = true := mt matches_column_iff.mp hp
      rw [List.filter_cons, if_neg hm]
      exact ih (by simpa [hp] using h)

theorem update_eq_put {f : Column → Column} (distinct : s.keys.Nodup)
    (h : s.get? (.column t n) = some (.column c)) (hf : (f c).identity = .column t n) :
    s.update (.column t n) f = s.put (.column t n) (.column (f c)) := by
  obtain ⟨entries⟩ := s
  simp only [keys, get?, update, put, mk.injEq] at distinct h ⊢
  induction entries with
  | nil => simp at h
  | cons p ps ih =>
    obtain ⟨hnew, distinct⟩ := List.nodup_cons.mp distinct
    by_cases hp : p.1 = .column t n
    · have he : p.2 = .column c := by simpa [hp] using h
      -- no other entry is under the identity
      have rest : ps.map (updateEntry (.column t n) f) = ps := by
        refine (List.map_congr_left fun q hq => ?_).trans (List.map_id ps)
        have hq : q.1 ≠ .column t n := by
          intro hqn
          exact hnew (List.mem_map.mpr ⟨q, hq, hqn.trans hp.symm⟩)
        simp [updateEntry, mt matches_column_iff.mp hq]
      have first : updateEntry (.column t n) f p = (.column t n, .column (f c)) := by
        rw [updateEntry, if_pos (matches_column_iff.mpr hp), he]
        exact Prod.ext hf rfl
      rw [List.map_cons, putEntry, if_pos hp, first, rest]
    · have hm : ¬ p.1.matches (.column t n) = true := mt matches_column_iff.mp hp
      have ih := ih distinct (by simpa [hp] using h)
      simp [putEntry, hp, updateEntry, hm, ih]

/-! ## Many entities -/

/-- The store after entities have been put one after the other. -/
def putAll (s : Store) (ps : List (Identity × Entity)) : Store :=
  ps.foldl (fun s p => s.put p.1 p.2) s

theorem keys_putAll : ∀ (ps : List (Identity × Entity)) (s : Store),
    (s.putAll ps).keys = s.keys ++ ((ps.map (·.1)).filter (· ∉ s.keys)).eraseDups
  | [], s => by simp [putAll]
  | p :: ps, s => by
    have ih := keys_putAll ps (s.put p.1 p.2)
    by_cases hp : p.1 ∈ s.keys
    · rw [keys_put_of_mem hp] at ih
      rw [List.map_cons, List.filter_cons, if_neg (by simpa using hp)]
      exact ih
    · rw [keys_put_of_not_mem hp] at ih
      have new : ((ps.map (·.1)).filter (· ∉ s.keys ++ [p.1])) =
          ((ps.map (·.1)).filter (· ∉ s.keys)).filter (!· == p.1) := by
        rw [List.filter_filter]
        refine List.filter_congr fun id _ => ?_
        by_cases hid : id = p.1 <;> simp [hid]
      rw [new, List.append_assoc] at ih
      rw [List.map_cons, List.filter_cons, if_pos (by simpa using hp), List.eraseDups_cons]
      exact ih

theorem get?_putAll : ∀ (ps : List (Identity × Entity)) (s : Store) (id : Identity),
    (s.putAll ps).get? id = ((ps.filter (·.1 == id)).getLast?.map (·.2)).or (s.get? id)
  | [], s, id => rfl
  | p :: ps, s, id => by
    have ih := get?_putAll ps (s.put p.1 p.2) id
    rw [get?_put] at ih
    refine ih.trans ?_
    by_cases hp : p.1 = id
    · subst hp
      simp only [List.filter_cons, beq_self_eq_true, if_true, List.getLast?_cons]
      cases (ps.filter (·.1 == p.1)).getLast? <;> rfl
    · simp [hp]

theorem filter_putAll {p : Identity → Bool} : ∀ {ps : List (Identity × Entity)} (s : Store),
    (∀ q ∈ ps, p q.1 = false) → (s.putAll ps).entries.filter (p ·.1) = s.entries.filter (p ·.1)
  | [], _, _ => rfl
  | q :: ps, s, h => by
    have ih := filter_putAll (s.put q.1 q.2) fun r hr => h r (List.mem_cons_of_mem q hr)
    exact ih.trans (filter_put s q.1 q.2 (h q List.mem_cons_self))

theorem nodup_keys_putAll : ∀ (ps : List (Identity × Entity)) {s : Store}, s.keys.Nodup →
    (s.putAll ps).keys.Nodup
  | [], _, h => h
  | p :: ps, _, h => nodup_keys_putAll ps (nodup_keys_put h p.1 p.2)

end MigrationAudit.Store
