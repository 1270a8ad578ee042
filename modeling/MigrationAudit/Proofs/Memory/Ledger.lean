import Mathlib.Data.List.Nodup
import MigrationAudit.Memory.Ledger

/-!
# Domains of ledgers

A ledger has a value exactly for the keys in its domain (`Ledger.mem_domain_iff`).  Writing and
erasing keep these keys distinct, so a ledger is as large as its domain has members.
-/

namespace MigrationAudit.Ledger

variable {κ α : Type}

/-- The keys that the ledger has a value for. -/
def domain (l : Ledger κ α) : List κ := l.entries.map (·.1)

theorem length_domain (l : Ledger κ α) : l.domain.length = l.size := List.length_map _

variable [DecidableEq κ] {l : Ledger κ α}

theorem mem_domain_iff {k : κ} : k ∈ l.domain ↔ ∃ x, l.get? k = some x := by
  rw [← Option.isSome_iff_exists, get?, Option.isSome_map, List.find?_isSome, domain, List.mem_map]
  simp

theorem nodup_domain_erase (h : l.domain.Nodup) (k : κ) : (l.erase k).domain.Nodup := by
  unfold domain erase
  exact h.sublist (List.filter_sublist.map _)

theorem nodup_domain_set (h : l.domain.Nodup) (k : κ) (x : α) : (l.set k x).domain.Nodup := by
  have hk : k ∉ (l.erase k).domain := by
    simp [mem_domain_iff]
  exact List.nodup_cons.mpr ⟨hk, nodup_domain_erase h k⟩

end MigrationAudit.Ledger
