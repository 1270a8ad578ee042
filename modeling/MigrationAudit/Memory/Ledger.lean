/-!
# Ledgers

A ledger keeps one value for each of its keys.  Writing a key replaces its value
(`get?_set_self`) and leaves all others alone (`get?_set_of_ne`), and so does erasing
(`get?_erase_self`, `get?_erase_of_ne`).
-/

namespace MigrationAudit

structure Ledger (κ α : Type) where
  entries : List (κ × α)
  deriving DecidableEq, Repr

namespace Ledger

variable {κ α : Type} [DecidableEq κ]

def empty : Ledger κ α := ⟨[]⟩

def size (l : Ledger κ α) : Nat := l.entries.length

def isEmpty (l : Ledger κ α) : Bool := l.entries.isEmpty

def get? (l : Ledger κ α) (k : κ) : Option α := (l.entries.find? (·.1 = k)).map (·.2)

def erase (l : Ledger κ α) (k : κ) : Ledger κ α := ⟨l.entries.filter (·.1 ≠ k)⟩

def set (l : Ledger κ α) (k : κ) (x : α) : Ledger κ α := ⟨(k, x) :: (l.erase k).entries⟩

@[simp]
theorem get?_empty (k : κ) : (empty : Ledger κ α).get? k = none := rfl

@[simp]
theorem get?_erase_self (l : Ledger κ α) (k : κ) : (l.erase k).get? k = none := by
  simp [get?, erase]

theorem get?_erase_of_ne (l : Ledger κ α) {k k' : κ} (h : k' ≠ k) :
    (l.erase k).get? k' = l.get? k' := by
  simp only [get?, erase, List.find?_filter]
  congr 2
  funext p
  by_cases hp : p.1 = k' <;> simp [hp, h]

@[simp]
theorem get?_set_self (l : Ledger κ α) (k : κ) (x : α) : (l.set k x).get? k = some x := by
  simp [get?, set]

theorem get?_set_of_ne (l : Ledger κ α) {k k' : κ} (x : α) (h : k' ≠ k) :
    (l.set k x).get? k' = l.get? k' := by
  rw [← get?_erase_of_ne l h]
  simp [get?, set, Ne.symm h]

end Ledger

end MigrationAudit
