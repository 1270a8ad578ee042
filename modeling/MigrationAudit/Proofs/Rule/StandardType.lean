import MigrationAudit.Proofs.Declaration
import MigrationAudit.Rule.StandardType

/-!
# Bases of standard types

The rule on standard types judges a declaration in upper case and without blank edges.  The base of
a declaration that it accepts is, in upper case, the name of a standard type
(`StandardType.upper_base_mem`).
-/

namespace MigrationAudit.StandardType

open Text

theorem base_fixed : ∀ name ∈ fixedNames, Declaration.base name = name := by
  decide +kernel

/-- The base of a declaration that is accepted is the name of a standard type. -/
theorem upper_base_mem {d : String} (h : accepts d = true) :
    upper (Declaration.base d) ∈ fixedNames ∨ upper (Declaration.base d) ∈ parametricNames := by
  have hb := (Declaration.base_upper_trim d).symm
  simp only [accepts, Bool.or_eq_true, decide_eq_true_eq] at h
  rcases h with h | h
  · left
    rwa [hb, base_fixed _ h]
  · right
    rwa [hb]

end MigrationAudit.StandardType
