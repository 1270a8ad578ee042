import MigrationAudit.Proofs.Changelog.Plain
import MigrationAudit.Proofs.Check.Places
import MigrationAudit.Proofs.Text.Pieces

/-!
# Lengths of names

Names are what is left of a list when its blank pieces are dropped, so none of them is shorter than
one unit.  Whatever attributes are judged with a lower bound of at most one, the issues are those of
the names beyond the upper bound (`Check.nameLengths_of_least_le_one`).  So of the one name of a
sequence the check finds a length beyond its bound and never a length of zero
(`ChangeCheck.run_sequenceName_of_one_name`).
-/

namespace MigrationAudit

namespace Check

variable {place : ChangePlace}

/-- An attribute and a name under it as a context of the change. -/
def nameContext (place : ChangePlace) (n : String × String) : Context :=
  .ofValue (.change place) n.1 (some n.2)

theorem run_minLength {least : Nat} {n : String × String}
    (h : least ≤ Text.units (Text.trim n.2)) :
    (⟨.minLength least, nameContext place n⟩ : Binding).run = .ok [] :=
  Binding.run_eq_nil_iff.mpr ⟨some n.2, rfl, by simp [Rule.holds, h]⟩

theorem run_maxLength {greatest : Nat} {n : String × String} (h : Text.trim n.2 = n.2) :
    (⟨.maxLength greatest, nameContext place n⟩ : Binding).run =
      .ok (if greatest < Text.units n.2 then
        [Issue.ofChange place (some n.1) (.tooLong (some n.2) greatest)] else []) := by
  by_cases hlong : greatest < Text.units n.2
  · rw [if_pos hlong]
    exact Binding.run_of_broken rfl rfl (by simp [Rule.holds, h, hlong])
  · rw [if_neg hlong]
    exact Binding.run_eq_nil_iff.mpr ⟨some n.2, rfl, by simpa [Rule.holds, h] using hlong⟩

/-! ## Names that are judged -/

theorem trim_of_mem_namesUnder {c : Change} {attributes : List Attribute} {n : String × String}
    (h : n ∈ namesUnder c attributes) : Text.trim n.2 = n.2 ∧ n.2 ≠ "" := by
  obtain ⟨a, -, hn⟩ := List.mem_flatMap.mp h
  obtain ⟨name, hname, rfl⟩ := List.mem_map.mp hn
  obtain ⟨s, -, hs⟩ := List.mem_flatMap.mp hname
  exact Text.trim_of_mem_names hs

/-- A lower bound of at most one is kept by all names, whatever the attributes hold. -/
theorem nameLengths_of_least_le_one {least : Nat} (h : least ≤ 1) (greatest : Nat)
    (attributes : List Attribute) (place : ChangePlace) :
    nameLengths least greatest (labels attributes) place =
      .ok (((namesUnder place.change attributes).filter fun n => greatest < Text.units n.2).map
        fun n => Issue.ofChange place (some n.1) (.tooLong (some n.2) greatest)) := by
  have trimmed : ∀ n ∈ namesUnder place.change attributes, Text.trim n.2 = n.2 :=
    fun n hn => (trim_of_mem_namesUnder hn).1
  have kept : ∀ b ∈ Binding.each (.minLength least)
      ((namesUnder place.change attributes).map (nameContext place)), b.run = .ok [] := by
    intro b hb
    obtain ⟨c, hc, rfl⟩ := List.mem_map.mp hb
    obtain ⟨n, hn, rfl⟩ := List.mem_map.mp hc
    refine run_minLength (h.trans ?_)
    rw [trimmed n hn, Nat.one_le_iff_ne_zero, ne_eq, Text.units_eq_zero_iff]
    exact (trim_of_mem_namesUnder hn).2
  rw [nameLengths_labels]
  refine (Binding.runAll_append_of_kept kept).trans (Binding.runAll_each fun n hn => ?_)
  simp only [decide_eq_true_eq]
  exact run_maxLength (trimmed n hn)

end Check

/-! ## Names of sequences -/

namespace ChangeCheck

variable (policy : Policy) (store : Store) (place : ChangePlace) (memory : Memory)

theorem run_sequenceName : (ChangeCheck.sequenceName.run policy store place memory).1 =
    .ok (((Check.namesUnder place.change [.sequenceName]).filter fun n =>
        policy.limits.sequenceNameMaxLength < Text.units n.2).map fun n =>
      Issue.ofChange place (some n.1)
        (.tooLong (some n.2) policy.limits.sequenceNameMaxLength)) :=
  Check.nameLengths_of_least_le_one le_rfl _ [.sequenceName] place

/-- What stands for a sequence without commas is at most one name. -/
theorem namesUnder_sequenceName {c : Change} {name : String}
    (hname : c.text? .sequenceName = some name) (hcomma : ',' ∉ name.toList) :
    Check.namesUnder c [.sequenceName] =
      if Text.trim name = "" then [] else [("sequenceName", Text.trim name)] := by
  have label : Attribute.sequenceName.label = "sequenceName" := rfl
  simp only [Check.namesUnder, hname, Option.toList_some, List.flatMap_singleton,
    Text.names_of_not_mem hcomma, label]
  by_cases hblank : Text.trim name = "" <;> simp [hblank]

variable {place}

/-- The one name of a sequence is found exactly if it is too long.  That is what is wanted, one issue
for a name that is too long or has no length at all, unless it has none. -/
theorem run_sequenceName_of_one_name {name : String}
    (hname : place.change.text? .sequenceName = some name) (hcomma : ',' ∉ name.toList) :
    let greatest := policy.limits.sequenceNameMaxLength
    let length := Text.units (Text.trim name)
    ∃ issues, (ChangeCheck.sequenceName.run policy store place memory).1 = .ok issues ∧
      issues = (if greatest < length then
        [Issue.ofChange place (some "sequenceName") (.tooLong (some (Text.trim name)) greatest)]
        else []) ∧
      (issues.length = (if length = 0 ∨ greatest < length then 1 else 0) ↔ length ≠ 0) := by
  intro greatest length
  have found : (ChangeCheck.sequenceName.run policy store place memory).1 =
      .ok (if greatest < length then
        [Issue.ofChange place (some "sequenceName") (.tooLong (some (Text.trim name)) greatest)]
        else []) := by
    rw [run_sequenceName, namesUnder_sequenceName hname hcomma]
    by_cases hblank : Text.trim name = ""
    · have hnone : ¬ greatest < length := by simp [length, Text.units_eq_zero_iff.mpr hblank]
      rw [if_pos hblank, if_neg hnone]
      rfl
    · by_cases hlong : greatest < length
      · rw [if_neg hblank, if_pos hlong, List.filter_cons_of_pos (by simpa using hlong)]
        rfl
      · rw [if_neg hblank, if_neg hlong, List.filter_cons_of_neg (by simpa using hlong)]
        rfl
  refine ⟨_, found, rfl, ?_⟩
  by_cases hlong : greatest < length
  · simp [hlong, Nat.ne_zero_of_lt hlong]
  · simp [hlong]

/-- A name of one letter more than the bound. -/
theorem run_sequenceName_of_long :
    let name := "sequence_of_the_archived_orders"
    let place := ChangePlace.alone (.ofTexts .createSequence [(.sequenceName, name)] [])
    place.change.text? .sequenceName = some name ∧ ',' ∉ name.toList ∧
      (ChangeCheck.sequenceName.run .plain .empty place .empty).1 =
        .ok [Issue.ofChange place (some "sequenceName") (.tooLong (some name) 30)] := by
  intro name place
  have hname : place.change.text? .sequenceName = some name := rfl
  have hcomma : ',' ∉ name.toList := by decide
  have htrim : Text.trim name = name := by decide +kernel
  have hlong : Policy.plain.limits.sequenceNameMaxLength < Text.units name := by decide +kernel
  obtain ⟨issues, hrun, hissues, -⟩ :=
    run_sequenceName_of_one_name .plain .empty .empty hname hcomma
  rw [htrim, if_pos hlong] at hissues
  rw [hrun, hissues]
  exact ⟨hname, hcomma, rfl⟩

/-- An empty name is not found. -/
theorem run_sequenceName_of_empty :
    let place := ChangePlace.alone (.ofTexts .createSequence [(.sequenceName, "")] [])
    place.change.text? .sequenceName = some "" ∧ Text.units (Text.trim "") = 0 ∧
      (ChangeCheck.sequenceName.run .plain .empty place .empty).1 = .ok [] := by
  intro place
  exact ⟨rfl, rfl, rfl⟩

end ChangeCheck

end MigrationAudit
