import Mathlib.Algebra.Order.BigOperators.Group.List
import Mathlib.Algebra.Order.Ring.Nat
import MigrationAudit.Check.Budget

/-!
# Rows within their budget

The check of a row adds up sizes in 64 bits and stops at the first column beyond the limit.  Up to
a limit that 64 bits can exceed no sum is cut off on the way, so the check finds nothing exactly if
the columns have sizes whose true sum keeps the limit (`Check.overflow?_eq_none_iff`).
-/

namespace MigrationAudit

open Text

namespace Storage

/-- The columns have sizes, and these add up to the limit at most. -/
def FitsRow (limit : Nat) (cs : List Column) : Prop :=
  ∃ sizes : List Nat, cs.map rowSize = sizes.map .ok ∧ sizes.sum ≤ limit

variable {limit : Nat} {cs ds : List Column}

theorem fitsRow_nil : FitsRow limit [] := ⟨[], rfl, Nat.zero_le limit⟩

theorem fitsRow_cons_iff {c : Column} :
    FitsRow limit (c :: cs) ↔
      ∃ size, rowSize c = .ok size ∧ size ≤ limit ∧ FitsRow (limit - size) cs := by
  constructor
  · rintro ⟨_ | ⟨size, sizes⟩, hsizes, hle⟩
    · simp at hsizes
    · simp only [List.map_cons, List.cons.injEq] at hsizes
      rw [List.sum_cons] at hle
      exact ⟨size, hsizes.1, by omega, sizes, hsizes.2, by omega⟩
  · rintro ⟨size, hsize, hle, sizes, hsizes, hsum⟩
    refine ⟨size :: sizes, by rw [List.map_cons, hsize, hsizes, List.map_cons], ?_⟩
    rw [List.sum_cons]
    omega

/-- Fewer columns of the same sizes fit as well. -/
theorem FitsRow.of_sublist (h : FitsRow limit ds)
    (hs : (cs.map rowSize).Sublist (ds.map rowSize)) : FitsRow limit cs := by
  obtain ⟨sizes, hd, hle⟩ := h
  rw [hd] at hs
  obtain ⟨kept, hkept, hc⟩ := List.sublist_map_iff.mp hs
  have hsum : kept.sum ≤ sizes.sum := hkept.sum_le_sum fun _ _ => Nat.zero_le _
  exact ⟨kept, hc, hsum.trans hle⟩

end Storage

namespace Check

open Storage

variable {limit : Nat}

/-- A sum that is cut off exceeds the limit as the true one does. -/
theorem lt_saturatingAdd_iff (hl : limit < maxWord) {a b : Nat} :
    limit < saturatingAdd a b ↔ limit < a + b := by
  unfold saturatingAdd
  omega

theorem overflow?_eq_none_iff (hl : limit < maxWord) : ∀ {cs : List Column} {total : Nat},
    total ≤ limit → (overflow? limit total cs = .ok none ↔ FitsRow (limit - total) cs)
  | [], total, _ => iff_of_true rfl fitsRow_nil
  | c :: cs, total, ht => by
    unfold overflow?
    rw [fitsRow_cons_iff]
    rcases rowSize c with failure | size
    · simp [bind, Except.bind]
    · simp only [bind, Except.bind, lt_saturatingAdd_iff hl, Except.ok.injEq, exists_eq_left']
      split
      · next h =>
        have hsize : ¬ size ≤ limit - total := by omega
        simp [hsize, pure, Except.pure]
      · next h =>
        have hle : total + size ≤ limit := Nat.not_lt.mp h
        have hsum : saturatingAdd total size = total + size := by
          unfold saturatingAdd
          omega
        have hsize : size ≤ limit - total := by omega
        rw [hsum, overflow?_eq_none_iff hl hle, Nat.sub_sub]
        exact (and_iff_right hsize).symm

/-- A table with which the check of the row finds nothing fits into a row. -/
theorem fitsRow_of_rowBudget (hl : limit < maxWord) {store : Store} {place : ChangePlace}
    (h : rowBudget limit store place = .ok []) {table : String}
    (ht : place.change.table? = some table) : FitsRow limit (store.columns (.table table)) := by
  unfold rowBudget at h
  rw [ht] at h
  rcases ho : overflow? limit 0 (store.columns (.table table)) with failure | first
  · simp [ho, bind, Except.bind] at h
  · cases first with
    | some c => simp [ho, bind, Except.bind, pure, Except.pure] at h
    | none => exact (overflow?_eq_none_iff hl (Nat.zero_le limit)).mp ho

end Check

end MigrationAudit
