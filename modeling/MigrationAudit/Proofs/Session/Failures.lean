import MigrationAudit.Proofs.Check.Failures
import MigrationAudit.Proofs.Schema.Absence
import MigrationAudit.Proofs.Session.Comparison

/-!
# Why a session fails

Once the settings are resolved, a session fails only over a change: the change cannot be replayed
without an attribute that it lacks (`Change.eq_missingAttribute_of_script`), or a check fails over it
(`ChangeCheck.failsByChange_run`).  Change sets are judged without any failure
(`Audit.total_judgeSet`).
-/

namespace MigrationAudit

/-! ## Steps -/

namespace Step

def Total (step : Step) : Prop := ∀ s, ∃ t found, step s = (t, .ok found)

/-- Wherever the step fails, it fails over a change. -/
def BlamesChange (step : Step) : Prop := ∀ s, FailsByChange (step s).2

theorem total_nothing : Total nothing := fun s => ⟨s, [], rfl⟩

theorem Total.andThen {first second : Step} (h : first.Total) (h' : second.Total) :
    (first.andThen second).Total := fun s => by
  obtain ⟨t, found, hfirst⟩ := h s
  obtain ⟨u, more, hsecond⟩ := h' t
  exact ⟨u, found ++ more, andThen_of_ok hfirst hsecond⟩

theorem Total.blamesChange {step : Step} (h : step.Total) : step.BlamesChange := fun s => by
  obtain ⟨t, found, hs⟩ := h s
  rw [hs]
  exact .ok found

theorem BlamesChange.andThen {first second : Step} (h : first.BlamesChange)
    (h' : second.BlamesChange) : (first.andThen second).BlamesChange := fun s => by
  have former := h s
  rcases hfirst : first s with ⟨t, failure | found⟩
  · -- the second step is not taken
    rw [andThen_of_error hfirst second]
    rwa [hfirst] at former
  · have latter := h' t
    unfold Step.andThen
    rcases hsecond : second t with ⟨u, failure | more⟩
    · rw [hsecond] at latter
      simpa only [hfirst, hsecond] using latter
    · simpa only [hfirst, hsecond] using FailsByChange.ok (found ++ more)

end Step

/-! ## Change sets, changes and sessions -/

namespace Audit

open Step

variable {a : Audit}

theorem total_setIssues (check : String) (issues : List Issue) :
    (a.unlessIgnored check (setIssues check issues)).Total :=
  unlessIgnored_cases total_nothing fun s => ⟨s, tagged check issues, rfl⟩

theorem total_checked {check : String} {run : Session → Findings × Memory}
    (h : ∀ s, ∃ issues, (run s).1 = .ok issues) :
    (a.unlessIgnored check (checked check run)).Total :=
  unlessIgnored_cases total_nothing fun s => by
    obtain ⟨issues, hissues⟩ := h s
    exact ⟨_, _, checked_of_ok hissues⟩

theorem total_judgeSet (a : Audit) (place : SetPlace) : (a.judgeSet place).Total := by
  refine judgeSet_induction total_nothing Total.andThen ?_ ?_ ?_
  · exact fun pattern => total_setIssues issueIdCheck _
  · exact fun check _ => total_setIssues check.name _
  · exact fun check => unlessIgnored_cases total_nothing fun s => ⟨_, _, rfl⟩

theorem blamesChange_replayStep (place : ChangePlace) : (a.replayStep place).BlamesChange := by
  intro s
  rw [replayStep_eq]
  cases hf : place.change.script.failure with
  | none => exact .ok []
  | some failure =>
    obtain ⟨element, field, rfl⟩ := Change.eq_missingAttribute_of_script hf
    exact .error (.missing element field)

theorem blamesChange_checked {check : String} {run : Session → Findings × Memory}
    (h : ∀ s, FailsByChange (run s).1) : (a.unlessIgnored check (checked check run)).BlamesChange :=
  unlessIgnored_cases total_nothing.blamesChange fun s => (h s).map (tagged check)

theorem blamesChange_judgeChange
    (hstep : Rule.equals? a.policy.limits.sequenceStep = .ok (.equals a.policy.limits.sequenceStep))
    (hextra : ∀ check ∈ a.extraChangeChecks, ∀ store place, FailsByChange (check.run store place))
    (place : ChangePlace) : (a.judgeChange place).BlamesChange := by
  refine judgeChange_induction total_nothing.blamesChange BlamesChange.andThen
    (blamesChange_replayStep place) (fun check hcheck => ?_) fun check => ?_
  · rw [extraChangeStep_eq_checked]
    exact blamesChange_checked fun s => hextra check hcheck s.schema.store place
  · exact blamesChange_checked fun s => check.failsByChange_run hstep s.schema.store place s.memory

theorem blamesChange_judgeLogs
    (hstep : Rule.equals? a.policy.limits.sequenceStep = .ok (.equals a.policy.limits.sequenceStep))
    (hextra : ∀ check ∈ a.extraChangeChecks, ∀ store place, FailsByChange (check.run store place))
    (logs : List Changelog) : (a.judgeLogs logs).BlamesChange := by
  rw [judgeLogs_eq_all]
  refine all_induction total_nothing.blamesChange BlamesChange.andThen
    (List.forall_mem_map.mpr fun item _ => ?_)
  cases item with
  | set place => exact (a.total_judgeSet place).blamesChange
  | change place => exact blamesChange_judgeChange hstep hextra place

variable {settings : Settings} {policy : Policy}

/-- Under settings that could be resolved, a session without checks beside the catalogue fails over
a missing attribute or a malformed number or not at all, and never while a change set is judged as
a whole. -/
theorem judgeLogs_failure (hpolicy : Policy.ofSettings settings = .ok policy) (naming : Naming) :
    (∀ logs s failure, ((ofPolicy policy naming).judgeLogs logs s).2 = .error failure →
      (∃ element field, failure = .missingAttribute element field) ∨
        ∃ field value, failure = .malformedNumber field value) ∧
      ∀ place s, ∃ t found, (ofPolicy policy naming).judgeSet place s = (t, .ok found) := by
  refine ⟨fun logs s failure h => ?_, total_judgeSet _⟩
  have blames : ((ofPolicy policy naming).judgeLogs logs).BlamesChange :=
    blamesChange_judgeLogs (Policy.ofSettings_sequenceStep hpolicy) (List.forall_mem_nil _) logs
  cases blames s failure h with
  | missing element field => exact .inl ⟨element, field, rfl⟩
  | malformed field value => exact .inr ⟨field, value, rfl⟩

/-- A column whose declared length is no number. -/
def oddLengthLog : Changelog := .ofChanges
  [.ofTexts .createTable [(.tableName, "t")] [.ofType "v" "VARCHAR(ten)"]]

theorem judgeLogs_failure_oddLength :
    (plain.judgeLogs [oddLengthLog] .empty).2 = .error (.malformedNumber "type" "ten") ∧
      ((∃ element field, Failure.malformedNumber "type" "ten" = .missingAttribute element field) ∨
        ∃ field value, Failure.malformedNumber "type" "ten" = .malformedNumber field value) ∧
      ∀ place s, ∃ t found, plain.judgeSet place s = (t, .ok found) := by
  have settings : Policy.ofSettings { Settings.default with issuePattern := none } =
    .ok plain.policy := rfl
  have fails : (plain.judgeLogs [oddLengthLog] .empty).2 =
      .error (.malformedNumber "type" "ten") := by decide +kernel
  obtain ⟨failures, sets⟩ := judgeLogs_failure settings plain.naming
  exact ⟨fails, failures [oddLengthLog] .empty _ fails, sets⟩

end Audit

end MigrationAudit
