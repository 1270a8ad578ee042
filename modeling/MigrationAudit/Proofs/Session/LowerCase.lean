import MigrationAudit.Proofs.Changelog.Plain
import MigrationAudit.Proofs.Rule.Silence
import MigrationAudit.Proofs.Schema.LowerCase
import MigrationAudit.Proofs.Session.Course

/-!
# Names in lower case in a session

The checks on lower case judge the names of nested columns and the attributes that hold identifiers,
but the new name of a table is not among these.  So a session in which they find nothing ends with
all names in lower case unless it has renamed a table to a name that is not
(`Audit.lowerCase_judgeLogs_iff`).
-/

namespace MigrationAudit

open Text

theorem Rule.lower_eq_of_holds {s : String} (h : Rule.lowerCase.holds (some s) = .ok true) :
    lower s = s := by
  simp only [holds, Option.all_some, Except.ok.injEq, beq_iff_eq] at h
  exact h.symm

namespace Check

variable {place : ChangePlace}

/-- If the checks on lower case find nothing with a change, its names are in lower case. -/
theorem namesInLowerCase
    (hl : lowerCase (labels lowerCaseAttributes) place = .ok [])
    (hc : place.change.element = .createTable ∨ place.change.element = .addColumn →
      ∃ bounds, columns bounds place = .ok []) : place.change.NamesInLowerCase where
  texts a ha s hs := Rule.lower_eq_of_holds (hs ▸ holds_of_onFields lowerCaseAttributes hl ha)
  declared element n hn s hs := by
    rw [← Change.columns_of_declares element] at hn
    have name : n.text? .name = some s := hs
    obtain ⟨bounds, hb⟩ := hc element
    exact Rule.lower_eq_of_holds (name ▸ holds_of_columns hb hn (by simp [columnBindings]))

end Check

namespace Audit

/-- The checks that judge whether names are in lower case. -/
def lowerCaseChecks : List ChangeCheck := [.lowerCase, .columns]

variable {a : Audit}

theorem Passes.namesInLowerCase {judged : List ChangePlace} {s : Session} {found : List Finding}
    (h : a.Passes judged s found)
    (hi : ∀ check ∈ lowerCaseChecks, a.policy.ignores check.name = false)
    (hq : ∀ check ∈ lowerCaseChecks, ∀ f ∈ found, f.check ≠ check.name) :
    ∀ c ∈ judged.map (·.change), c.NamesInLowerCase := by
  refine List.forall_mem_map.mpr fun place hplace => ?_
  obtain ⟨earlier, later, split⟩ := List.append_of_mem hplace
  have hp : earlier ++ [place] <+: judged := ⟨later, by simp [split]⟩
  have silent : ∀ check ∈ lowerCaseChecks, check.appliesTo place.change.element = true →
      ∃ memory, (check.run a.policy (a.schemaAfter (earlier ++ [place])).store place memory).1 =
        .ok [] := fun check hc happ => h.silent (hi check hc) (hq check hc) hp happ
  obtain ⟨_, hl⟩ := silent .lowerCase (by decide) rfl
  refine Check.namesInLowerCase hl fun element => ?_
  have happ : ChangeCheck.columns.appliesTo place.change.element = true := by
    rcases element with element | element <;> rw [element] <;> decide
  obtain ⟨_, hc⟩ := silent .columns (by decide) happ
  exact ⟨_, hc⟩

/-- In a session in which the checks on lower case find nothing, the columns that end up in the
schema have names in lower case, and so have their tables exactly if no table was left under a name
that is not. -/
theorem lowerCase_judgeLogs_iff {logs : List Changelog} {s : Session} {found : List Finding}
    (h : a.judgeLogs logs .empty = (s, .ok found))
    (hi : ∀ check ∈ lowerCaseChecks, a.policy.ignores check.name = false)
    (hq : ∀ check ∈ lowerCaseChecks, ∀ f ∈ found, f.check ≠ check.name) :
    (∀ c ∈ s.schema.columns, lower c.name = c.name) ∧
      (s.schema.store.LowerCase ↔
        ∀ t, ¬ Schema.Raised a.naming ((a.judged logs).map (·.change)) t) := by
  have hp := passes_judgeLogs h
  have named := hp.namesInLowerCase hi hq
  rw [hp.schema_eq]
  exact ⟨fun c hc => (Schema.lower_of_mem_replayAll a.naming named c hc).1,
    Schema.lowerCase_replayAll_iff a.naming named⟩

/-- A table that is renamed twice, the second time to a name in lower case. -/
def renamedTwiceLog : Changelog := .ofChanges
  [.ofTexts .createTable [(.tableName, "t")] [.ofType "v" "VARCHAR(10)"],
    .ofTexts .renameTable [(.oldTableName, "t"), (.newTableName, "T2")] [],
    .ofTexts .renameTable [(.oldTableName, "T2"), (.newTableName, "u")] []]

theorem lowerCase_judgeLogs_of_renamedTwiceLog :
    (plain.judgeLogs [renamedTwiceLog] .empty).2 = .ok [] ∧
      (∀ check ∈ lowerCaseChecks, plain.policy.ignores check.name = false) ∧
      (∀ c ∈ (plain.judgeLogs [renamedTwiceLog] .empty).1.schema.columns, lower c.name = c.name) ∧
      ((plain.judgeLogs [renamedTwiceLog] .empty).1.schema.store.LowerCase ↔
        ∀ t, ¬ Schema.Raised plain.naming ((plain.judged [renamedTwiceLog]).map (·.change)) t) := by
  have found : (plain.judgeLogs [renamedTwiceLog] .empty).2 = .ok [] := by decide +kernel
  have kept : ∀ check ∈ lowerCaseChecks, plain.policy.ignores check.name = false := by decide
  refine ⟨found, kept, ?_⟩
  exact lowerCase_judgeLogs_iff (Step.eq_mk_of_snd found) kept fun _ _ => List.forall_mem_nil _

/-- A table renamed to a name that is not in lower case. -/
def raisedLog : Changelog := .ofChanges
  [.ofTexts .createTable [(.tableName, "t")] [.ofType "v" "VARCHAR(10)"],
    .ofTexts .renameTable [(.oldTableName, "t"), (.newTableName, "T2")] []]

theorem not_lowerCase_of_raisedLog :
    (plain.judgeLogs [raisedLog] .empty).2 = .ok [] ∧
      (∀ check ∈ lowerCaseChecks, plain.policy.ignores check.name = false) ∧
      ¬ (plain.judgeLogs [raisedLog] .empty).1.schema.store.LowerCase := by
  refine ⟨by decide +kernel, by decide, fun h => ?_⟩
  have hid : .column "T2" "v" ∈ (plain.judgeLogs [raisedLog] .empty).1.schema.store.keys := by
    decide +kernel
  obtain ⟨t, n, heq, ht, -⟩ := h _ hid
  obtain ⟨rfl, rfl⟩ := Identity.column.inj heq
  exact absurd ht (by decide +kernel)

end Audit

end MigrationAudit
