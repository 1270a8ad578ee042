import Mathlib.Data.Set.Card
import MigrationAudit.Memory.Indexes
import MigrationAudit.Proofs.Memory.Ledger

/-!
# Names and keys of indexes

The two ledgers hold the same pairs of a name and a key (`Indexes.Mutual`).  A key that no other
name has may be taken and any name released without breaking this (`Mutual.reserve_iff`,
`Mutual.release`).  What both do to the owners is said by `Indexes.owner?_reserve` and
`Indexes.owner?_release`: a key loses its owner only if this very name takes another key or is
released.  If the names are distinct as well, there are as many of them as there are keys with an
owner (`Mutual.encard_owned`).
-/

namespace MigrationAudit

namespace Indexes

/-! ## Owners -/

variable {i : Indexes} {name key : String}

/-- The names with their keys are the owners of these keys. -/
def Mutual (i : Indexes) : Prop :=
  ∀ name key, i.key? name = some key ↔ i.owner? key = some name

theorem mutual_empty : empty.Mutual := fun _ _ => by simp [key?, owner?, empty]

theorem get?_ownersWithout (i : Indexes) (name key : String) :
    (i.ownersWithout name).get? key =
      if i.key? name = some key then none else i.owner? key := by
  unfold ownersWithout key? owner?
  cases i.keys.get? name with
  | none => simp
  | some former =>
    by_cases h : former = key
    · simp [h]
    · simp [h, Ledger.get?_erase_of_ne _ (Ne.symm h)]

theorem key?_reserve (i : Indexes) (name key name' : String) :
    (i.reserve name key).key? name' = if name' = name then some key else i.key? name' := by
  unfold reserve key?
  split
  · next h => rw [h, Ledger.get?_set_self]
  · next h => rw [Ledger.get?_set_of_ne _ _ h]

theorem owner?_reserve (i : Indexes) (name key key' : String) :
    (i.reserve name key).owner? key' =
      if key' = key then some name
      else if i.key? name = some key' then none
      else i.owner? key' := by
  unfold reserve
  rw [← get?_ownersWithout, owner?]
  split
  · next h => rw [h, Ledger.get?_set_self]
  · next h => rw [Ledger.get?_set_of_ne _ _ h]

theorem key?_release (i : Indexes) (name name' : String) :
    (i.release name).key? name' = if name' = name then none else i.key? name' := by
  unfold release key?
  split
  · next h => rw [h, Ledger.get?_erase_self]
  · next h => rw [Ledger.get?_erase_of_ne _ h]

theorem owner?_release (i : Indexes) (name key : String) :
    (i.release name).owner? key = if i.key? name = some key then none else i.owner? key :=
  get?_ownersWithout i name key

theorem Mutual.eq_of_key? (h : i.Mutual) {n n' : String} (hn : i.key? n = some key)
    (hn' : i.key? n' = some key) : n = n' :=
  Option.some.inj (((h n key).mp hn).symm.trans ((h n' key).mp hn'))

theorem Mutual.get?_ownersWithout_iff (h : i.Mutual) {n : String} :
    (i.ownersWithout name).get? key = some n ↔ n ≠ name ∧ i.key? n = some key := by
  rw [get?_ownersWithout, h n key]
  split
  · next hk =>
    refine iff_of_false (by simp) ?_
    rintro ⟨hn, ho⟩
    exact hn (h.eq_of_key? ((h n key).mpr ho) hk)
  · next hk =>
    refine ⟨fun ho => ⟨?_, ho⟩, And.right⟩
    rintro rfl
    exact hk ((h n key).mpr ho)

/-- Taking a key keeps names and keys in pairs exactly if no other name has it. -/
theorem Mutual.reserve_iff (h : i.Mutual) (name key : String) :
    (i.reserve name key).Mutual ↔ ∀ other, i.key? other = some key → other = name := by
  constructor
  · intro hr other ho
    by_contra hne
    have hkey : (i.reserve name key).key? other = some key := by
      rw [key?_reserve, if_neg hne, ho]
    have howner := (hr other key).mp hkey
    rw [owner?_reserve, if_pos rfl] at howner
    exact hne (Option.some.inj howner).symm
  · intro hfree n k
    rw [key?_reserve, owner?_reserve, ← get?_ownersWithout]
    by_cases hk : k = key
    · subst hk
      by_cases hn : n = name
      · simp [hn]
      · have hno : i.key? n ≠ some k := fun ho => hn (hfree n ho)
        simp [hn, Ne.symm hn, hno]
    · rw [if_neg hk, h.get?_ownersWithout_iff]
      by_cases hn : n = name
      · simp [hn, Ne.symm hk]
      · simp [hn]

theorem Mutual.reserve (h : i.Mutual) (hk : i.owner? key = none) (name : String) :
    (i.reserve name key).Mutual := by
  refine (h.reserve_iff name key).mpr fun other ho => ?_
  rw [(h other key).mp ho] at hk
  cases hk

theorem Mutual.release (h : i.Mutual) (name : String) : (i.release name).Mutual := by
  intro n k
  rw [key?_release, owner?_release, ← get?_ownersWithout, h.get?_ownersWithout_iff]
  by_cases hn : n = name
  · simp [hn]
  · simp [hn]

/-- A key keeps its owner while other names take keys that nobody owns, or are released. -/
theorem Mutual.owner?_reserve_of_ne (h : i.Mutual) {name' key' : String}
    (ho : i.owner? key = some name) (hk : i.owner? key' = none) (hn : name ≠ name') :
    (i.reserve name' key').owner? key = some name := by
  have hkk : key ≠ key' := by
    rintro rfl
    rw [ho] at hk
    cases hk
  rw [owner?_reserve, if_neg hkk, ← get?_ownersWithout, h.get?_ownersWithout_iff]
  exact ⟨hn, (h name key).mpr ho⟩

theorem Mutual.owner?_release_of_ne (h : i.Mutual) {name' : String}
    (ho : i.owner? key = some name) (hn : name ≠ name') :
    (i.release name').owner? key = some name := by
  rw [owner?_release, ← get?_ownersWithout, h.get?_ownersWithout_iff]
  exact ⟨hn, (h name key).mpr ho⟩

/-! ## Sizes -/

theorem nodup_names_reserve (hd : i.keys.domain.Nodup) (name key : String) :
    (i.reserve name key).keys.domain.Nodup := Ledger.nodup_domain_set hd name key

theorem nodup_names_release (hd : i.keys.domain.Nodup) (name : String) :
    (i.release name).keys.domain.Nodup := Ledger.nodup_domain_erase hd name

/-- Of names and keys in pairs there are equally many. -/
theorem Mutual.encard_owned (h : i.Mutual) (hd : i.keys.domain.Nodup) :
    {key | ∃ name, i.owner? key = some name}.encard = i.size := by
  have hk : ∀ {n}, n ∈ i.keys.domain ↔ ∃ key, i.key? n = some key := Ledger.mem_domain_iff
  have himage : {key | ∃ name, i.owner? key = some name} =
      (fun n => (i.key? n).getD "") '' (i.keys.domain.toFinset : Set String) := by
    ext key
    simp only [Set.mem_ofPred_eq, Set.mem_image, Finset.mem_coe, List.mem_toFinset, hk]
    constructor
    · rintro ⟨n, hn⟩
      exact ⟨n, ⟨key, (h n key).mpr hn⟩, by rw [(h n key).mpr hn, Option.getD_some]⟩
    · rintro ⟨n, ⟨key', hn⟩, rfl⟩
      exact ⟨n, by rw [hn, Option.getD_some, (h n key').mp hn]⟩
  have hinj : Set.InjOn (fun n => (i.key? n).getD "") (i.keys.domain.toFinset : Set String) := by
    intro n hn n' hn' heq
    obtain ⟨key, hkey⟩ := hk.mp (List.mem_toFinset.mp hn)
    obtain ⟨key', hkey'⟩ := hk.mp (List.mem_toFinset.mp hn')
    simp only [hkey, hkey', Option.getD_some] at heq
    subst heq
    exact h.eq_of_key? hkey hkey'
  rw [himage, hinj.encard_image, Set.encard_coe_eq_coe_finsetCard, List.toFinset_card_of_nodup hd,
    Ledger.length_domain]
  rfl

end Indexes

end MigrationAudit
