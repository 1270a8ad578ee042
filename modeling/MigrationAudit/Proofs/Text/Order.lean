import Mathlib.Data.List.Sort
import Mathlib.Data.String.Basic
import MigrationAudit.Text.Order

/-!
# Ordered texts increase

Texts put in order are strictly increasing (`pairwise_ordered`), so their order depends on nothing
but which texts they are (`ordered_eq_iff`).
-/

namespace MigrationAudit.Text

theorem pairwise_place {s : String} : ∀ {ts : List String}, ts.Pairwise (· < ·) →
    (place s ts).Pairwise (· < ·)
  | [], _ => List.pairwise_singleton _ _
  | t :: ts, h => by
    obtain ⟨ht, hts⟩ := List.pairwise_cons.mp h
    unfold place
    split
    · rename_i hst
      refine List.pairwise_cons.mpr ⟨fun u hu => ?_, h⟩
      rcases List.mem_cons.mp hu with rfl | hu
      · exact hst
      · exact lt_trans hst (ht u hu)
    · split
      · exact h
      · rename_i hst hne
        refine List.pairwise_cons.mpr ⟨fun u hu => ?_, pairwise_place hts⟩
        rcases mem_place_iff.mp hu with rfl | hu
        · exact lt_of_le_of_ne (not_lt.mp hst) (Ne.symm hne)
        · exact ht u hu

theorem pairwise_ordered (texts : List String) : (ordered texts).Pairwise (· < ·) := by
  induction texts with
  | nil => exact List.Pairwise.nil
  | cons s ss ih => exact pairwise_place ih

/-- Two lists have the same order exactly if they have the same texts. -/
theorem ordered_eq_iff {ts us : List String} : ordered ts = ordered us ↔ ∀ t, t ∈ ts ↔ t ∈ us := by
  constructor
  · intro h t
    rw [← mem_ordered_iff, h, mem_ordered_iff]
  · intro h
    refine (pairwise_ordered ts).eq_of_mem_iff (pairwise_ordered us) fun {t} => ?_
    rw [mem_ordered_iff, mem_ordered_iff, h]

end MigrationAudit.Text
