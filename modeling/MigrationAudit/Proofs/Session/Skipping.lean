import MigrationAudit.Proofs.Session.Draws

/-!
# Skipping change sets

To skip change sets is to delete them: a session that skips what is specific to some databases under
some identifiers does, from any state, what the session that skips nothing does with the changelogs
without these change sets (`Audit.judgeLogs_without`).  For what is judged in a changelog sees of
the changelog around it no more than the file it stands in (`Audit.judgePlace_within`).
-/

namespace MigrationAudit

/-! ## Deleting change sets -/

/-- The changelog without the change sets that may be skipped under the identifiers. -/
def Changelog.without (ids : List String) (log : Changelog) : Changelog :=
  { log with changeSets := log.changeSets.filter fun s => !(s.id ∈ ids && s.isDatabaseSpecific) }

def Settings.skippingNothing (s : Settings) : Settings := { s with skipChangeSets := [] }

namespace Policy

def skippingNothing (p : Policy) : Policy := { p with skipped := [] }

theorem ofSettings_skippingNothing (s : Settings) :
    ofSettings s.skippingNothing = (ofSettings s).map skippingNothing := by
  change _ = skippingNothing <$> ofSettings s
  simp only [ofSettings, map_bind, map_pure]
  rfl

theorem skipped_of_ofSettings {s : Settings} {p : Policy} (h : ofSettings s = .ok p) :
    p.skipped = s.skipChangeSets := by
  have skipped : (fun p : Policy => p.skipped) <$> ofSettings s =
      (fun _ => s.skipChangeSets) <$> ofSettings s := by
    simp only [ofSettings, map_bind, map_pure]
  rw [h] at skipped
  exact Except.ok.inj skipped

end Policy

/-! ## What is seen of a changelog -/

/-- The changelogs stand in the same file under the same logical path. -/
structure Changelog.SameFile (log log' : Changelog) : Prop where
  physical : log'.physicalFilePath = log.physicalFilePath
  logical : log'.logicalFilePath = log.logicalFilePath

/-- The changelogs stand in the same file, go by the same path and have the same wrong with their
logical paths. -/
structure Changelog.Resembles (log log' : Changelog) : Prop where
  physical : log'.physicalFilePath = log.physicalFilePath
  path : log'.filePath = log.filePath
  cause : ∀ expected, Check.logicalPathCause? expected log' = Check.logicalPathCause? expected log

theorem Changelog.resembles_refl (log : Changelog) : log.Resembles log := ⟨rfl, rfl, fun _ => rfl⟩

theorem Changelog.SameFile.resembles {log log' : Changelog} (h : log.SameFile log') :
    log.Resembles log' where
  physical := h.physical
  path := by simp only [filePath, h.physical, h.logical]
  cause expected := by simp only [Check.logicalPathCause?, h.physical, h.logical]

/-- The change set in another changelog. -/
def SetPlace.within (place : SetPlace) (log : Changelog) : SetPlace := { place with log }

/-- The change, with its set, in another changelog. -/
def ChangePlace.within (place : ChangePlace) (log : Changelog) : ChangePlace := { place with log }

theorem SetPlace.places_within (place : SetPlace) (log : Changelog) :
    (place.within log).places = place.places.map (·.within log) := by
  have after : ∀ changes earlier, (place.within log).placesAfter earlier changes =
      (place.placesAfter earlier changes).map (·.within log) := by
    intro changes
    induction changes with
    | nil => exact fun _ => rfl
    | cons c later ih => exact fun earlier => congrArg (List.cons _) (ih (earlier ++ [c]))
  exact after place.changeSet.changes []

theorem SetPlace.toSetPlace_of_mem_places {place : SetPlace} {p : ChangePlace}
    (h : p ∈ place.places) : p.toSetPlace = place := by
  have after : ∀ changes earlier, ∀ p ∈ place.placesAfter earlier changes,
      p.toSetPlace = place := by
    intro changes
    induction changes with
    | nil => simp [placesAfter]
    | cons c later ih =>
      intro earlier
      simp only [placesAfter, List.forall_mem_cons]
      exact ⟨trivial, ih (earlier ++ [c])⟩
  exact after place.changeSet.changes [] p h

section Within

variable {log' : Changelog}

theorem SetPlace.issue_within {place : SetPlace}
    (h : log'.physicalFilePath = place.log.physicalFilePath) :
    Issue.ofSet (place.within log') = Issue.ofSet place := by
  funext field cause
  simp only [Issue.ofSet, Issue.ofChangelog, within, h]

theorem ChangePlace.issue_within {place : ChangePlace}
    (h : log'.physicalFilePath = place.log.physicalFilePath) :
    Issue.ofElement (place.within log') = Issue.ofElement place := by
  funext element field cause
  have issue : Issue.ofSet (place.within log').toSetPlace field cause =
      Issue.ofSet place.toSetPlace field cause :=
    congrFun (congrFun (SetPlace.issue_within h) field) cause
  exact congrArg (fun i : Issue => { i with element := some element }) issue

/-- What surrounds a change in its set comes along. -/
theorem ChangeCheck.run_within {place : ChangePlace} (h : place.log.Resembles log')
    (check : ChangeCheck) (policy : Policy) (store : Store) (memory : Memory) :
    check.run policy store (place.within log') memory = check.run policy store place memory := by
  have issue := ChangePlace.issue_within h.physical
  have own : place.CarriedBy id (place.within log') :=
    ⟨rfl, fun field cause => congrFun (congrFun (congrFun issue _) field) cause⟩
  have columns : place.ColumnsCarriedBy id (place.within log') :=
    fun field cause => congrFun (congrFun (congrFun issue "column") field) cause
  rw [own.run policy store memory (fun _ => columns) ⟨fun _ => rfl, rfl, h.path⟩, List.map_id_fun,
    id_map]

/-- Only the check of declared change sets looks at the logical path itself. -/
theorem SetCheck.run_within {place : SetPlace} (h : place.log.Resembles log') {check : SetCheck}
    (hcheck : check ≠ .duplicatedSet) (policy : Policy) (memory : Memory) :
    check.run policy (place.within log') memory = check.run policy place memory := by
  have issue := SetPlace.issue_within h.physical
  have set : (place.within log').changeSet = place.changeSet := rfl
  cases check with
  | logicalPath =>
    have around : (place.within log').log = log' := rfl
    have issues : Issue.ofChangelog log' = Issue.ofChangelog place.log := by
      funext field cause
      simp only [Issue.ofChangelog, h.physical]
    simp only [run, Check.logicalPath, around, h.physical, h.cause, issues]
  | duplicatedSet => exact absurd rfl hcheck
  | checkSums => simp only [run, Check.checkSums, Issue.ofSetElement, set, issue]

theorem SetCheck.run_sameFile {place : SetPlace} (h : place.log.SameFile log') (check : SetCheck)
    (policy : Policy) (memory : Memory) :
    check.run policy (place.within log') memory = check.run policy place memory := by
  by_cases hcheck : check = .duplicatedSet
  · subst hcheck
    have issue := SetPlace.issue_within h.physical
    have set : (place.within log').changeSet = place.changeSet := rfl
    have key : Check.setKey (place.within log') = Check.setKey place :=
      congrArg (·, place.changeSet.id) h.logical
    have physical : (place.within log').log.physicalFilePath = place.log.physicalFilePath :=
      h.physical
    simp only [run, Check.duplicatedSet, set, key, physical, issue]
  · exact run_within h.resembles hcheck policy memory

end Within

/-! ## The session that skips nothing -/

theorem ChangeCheck.run_skippingNothing (check : ChangeCheck) (p : Policy) :
    check.run p.skippingNothing = check.run p := by
  cases check <;> rfl

theorem SetCheck.run_skippingNothing (check : SetCheck) (p : Policy) :
    check.run p.skippingNothing = check.run p := by
  cases check <;> rfl

namespace Audit

variable (policy : Policy) (naming : Naming) {log : Changelog}

theorem judgeSet_within {place : SetPlace} (h : place.log.SameFile log) :
    (ofPolicy policy.skippingNothing naming).judgeSet (place.within log) =
      (ofPolicy policy naming).judgeSet place := by
  have issueId : (ofPolicy policy.skippingNothing naming).issueIdStep (place.within log) =
      (ofPolicy policy naming).issueIdStep place := by
    have issue := SetPlace.issue_within h.physical
    have set : (place.within log).changeSet = place.changeSet := rfl
    simp only [issueIdStep, Check.issueId, set, issue]
    rfl
  have checks : (ofPolicy policy.skippingNothing naming).setCheckStep (place.within log) =
      (ofPolicy policy naming).setCheckStep place := by
    funext check
    have run : ∀ memory, check.run policy.skippingNothing (place.within log) memory =
        check.run policy place memory := by
      intro memory
      rw [check.run_skippingNothing, SetCheck.run_sameFile h]
    rw [setCheckStep_eq_checked, setCheckStep_eq_checked]
    simp only [ofPolicy, run]
    rfl
  simp only [judgeSet, issueId, checks]
  rfl

theorem judgeChange_within {place : ChangePlace} (h : place.log.SameFile log) :
    (ofPolicy policy.skippingNothing naming).judgeChange (place.within log) =
      (ofPolicy policy naming).judgeChange place := by
  have replay : (ofPolicy policy.skippingNothing naming).replayStep (place.within log) =
      (ofPolicy policy naming).replayStep place := rfl
  have checks : (ofPolicy policy.skippingNothing naming).changeCheckStep (place.within log) =
      (ofPolicy policy naming).changeCheckStep place := by
    funext check
    have run : ∀ store memory, check.run policy.skippingNothing store (place.within log) memory =
        check.run policy store place memory := by
      intro store memory
      rw [check.run_skippingNothing, ChangeCheck.run_within h.resembles]
    rw [changeCheckStep_eq_checked, changeCheckStep_eq_checked]
    simp only [ofPolicy, run]
    rfl
  simp only [judgeChange, replay, checks]
  rfl

/-- The verdict on a change set and its changes does not depend on the other sets around it. -/
theorem judgePlace_within {place : SetPlace} (h : place.log.SameFile log) :
    (ofPolicy policy.skippingNothing naming).judgePlace (place.within log) =
      (ofPolicy policy naming).judgePlace place := by
  have changes : ∀ p ∈ place.places,
      (ofPolicy policy.skippingNothing naming).judgeChange (p.within log) =
        (ofPolicy policy naming).judgeChange p := by
    intro p hp
    have around : p.toSetPlace = place := SetPlace.toSetPlace_of_mem_places hp
    exact judgeChange_within policy naming (around ▸ h)
  rw [judgePlace, judgePlace, judgeSet_within policy naming h, SetPlace.places_within,
    List.map_map]
  exact congrArg (fun steps => Step.andThen _ (.all steps)) (List.map_congr_left changes)

theorem judgeLog_without (log : Changelog) :
    (ofPolicy policy.skippingNothing naming).judgeLog (log.without policy.skipped) =
      (ofPolicy policy naming).judgeLog log := by
  have same : log.SameFile (log.without policy.skipped) := ⟨rfl, rfl⟩
  have sets : (log.without policy.skipped).places.filter (fun place =>
        !policy.skippingNothing.skips place.changeSet) =
      (log.places.filter fun place => !policy.skips place.changeSet).map
        (·.within (log.without policy.skipped)) := by
    simp [Changelog.places, Changelog.without, List.filter_map, Policy.skips,
      Policy.skippingNothing, Function.comp_def, SetPlace.within]
  unfold judgeLog
  simp only [ofPolicy]
  rw [sets, List.map_map]
  refine congrArg Step.all (List.map_congr_left fun place hplace => ?_)
  have around : place.log = log := by
    obtain ⟨hmem, -⟩ := List.mem_filter.mp hplace
    obtain ⟨set, -, rfl⟩ := List.mem_map.mp hmem
    rfl
  exact judgePlace_within policy naming (around ▸ same)

theorem judgeLogs_map_without (logs : List Changelog) :
    (ofPolicy policy.skippingNothing naming).judgeLogs
        (logs.map (·.without policy.skipped)) = (ofPolicy policy naming).judgeLogs logs := by
  rw [judgeLogs, judgeLogs, List.map_map]
  exact congrArg Step.all (List.map_congr_left fun log _ => judgeLog_without policy naming log)

theorem auditChangelogs_without (settings : Settings) (logs : List Changelog) :
    auditChangelogs naming settings.skippingNothing
        (logs.map (·.without settings.skipChangeSets)) = auditChangelogs naming settings logs := by
  have resolved := Policy.ofSettings_skippingNothing settings
  cases h : Policy.ofSettings settings with
  | error failure =>
    rw [h] at resolved
    rw [auditChangelogs_of_error h, auditChangelogs_of_error resolved]
  | ok policy =>
    rw [h] at resolved
    have found := judgeLogs_map_without policy naming logs
    rw [Policy.skipped_of_ofSettings h] at found
    rw [auditChangelogs_of_ok h, auditChangelogs_of_ok resolved, found]

/-- To skip change sets is to delete them.  Under any settings the audit finds the same, or fails in
the same way, as the audit that skips nothing finds in the changelogs without the change sets that
are specific to some databases and have one of the skipped identifiers.  Once the settings are
resolved, the sessions are the same throughout: in what they find or how they fail, in the schema
they end with and in what they remember; if other names are drawn for constraints, up to these
names. -/
theorem judgeLogs_without (settings : Settings) (logs : List Changelog) :
    let kept := logs.map (·.without settings.skipChangeSets)
    Policy.ofSettings settings.skippingNothing =
        (Policy.ofSettings settings).map Policy.skippingNothing ∧
      auditChangelogs naming settings logs = auditChangelogs naming settings.skippingNothing kept ∧
      ∀ policy, Policy.ofSettings settings = .ok policy →
        (ofPolicy policy naming).judgeLogs logs .empty =
            (ofPolicy policy.skippingNothing naming).judgeLogs kept .empty ∧
          ∀ naming', Naming.Alike ((ofPolicy policy naming).droppedNames logs) naming naming' →
            let r := (ofPolicy policy naming).judgeLogs logs .empty
            let r' := (ofPolicy policy.skippingNothing naming').judgeLogs kept .empty
            r'.1.schema.store.masked = r.1.schema.store.masked ∧ r'.1.memory = r.1.memory ∧
              r'.2.map (List.map Finding.masked) = r.2.map (List.map Finding.masked) := by
  intro kept
  refine ⟨Policy.ofSettings_skippingNothing settings,
    (auditChangelogs_without naming settings logs).symm, fun policy hpolicy => ?_⟩
  have same : ∀ naming, (ofPolicy policy.skippingNothing naming).judgeLogs kept .empty =
      (ofPolicy policy naming).judgeLogs logs .empty := by
    intro naming
    have deleted := judgeLogs_map_without policy naming logs
    rw [Policy.skipped_of_ofSettings hpolicy] at deleted
    exact congrFun deleted .empty
  refine ⟨(same naming).symm, fun naming' halike => ?_⟩
  rw [same naming']
  have drawing : (ofPolicy policy naming).drawing naming' = ofPolicy policy naming' := rfl
  rw [← drawing]
  exact judgeLogs_drawing halike (List.forall_mem_nil _)

/-- Settings that skip two change sets. -/
def skippingSettings : Settings :=
  { Settings.default with issuePattern := none, skipChangeSets := ["s", "n"] }

/-- A set for all databases. -/
def keyedColumnSet : ChangeSet :=
  { ChangeSet.ofChanges (keyedColumnLog.changeSets.flatMap (·.changes)) with id := "n" }

/-- The set after one for a single database, which would fail. -/
def mixedLog : Changelog := ⟨none, "",
  [{ ChangeSet.ofChanges [.ofTexts .createTable [] []] with id := "s", dbms := ["oracle"] },
    keyedColumnSet]⟩

theorem judgeLogs_without_specific :
    let policy := { Policy.plain with skipped := ["s", "n"] }
    let r := (ofPolicy policy fun _ => "d").judgeLogs [mixedLog] .empty
    auditChangelogs (fun _ => "d") skippingSettings [mixedLog] =
        auditChangelogs (fun _ => "d") skippingSettings.skippingNothing
          [⟨none, "", [keyedColumnSet]⟩] ∧
      r.2.map List.length = .ok 2 ∧
      r = (ofPolicy policy.skippingNothing fun _ => "d").judgeLogs
        [⟨none, "", [keyedColumnSet]⟩] .empty ∧
      ((ofPolicy policy.skippingNothing fun _ => "e").judgeLogs
          [⟨none, "", [keyedColumnSet]⟩] .empty).2.map (List.map Finding.masked) =
        r.2.map (List.map Finding.masked) := by
  intro policy r
  have kept : [mixedLog].map (·.without skippingSettings.skipChangeSets) =
      [⟨none, "", [keyedColumnSet]⟩] := by decide +kernel
  have settings : Policy.ofSettings skippingSettings = .ok policy := rfl
  have dropped : (ofPolicy policy fun _ => "d").droppedNames [mixedLog] = [] := by decide +kernel
  obtain ⟨-, audits, sessions⟩ := judgeLogs_without (fun _ => "d") skippingSettings [mixedLog]
  obtain ⟨same, drawing⟩ := sessions policy settings
  have alike : Naming.Alike ((ofPolicy policy fun _ => "d").droppedNames [mixedLog])
      (fun _ => "d") fun _ => "e" := by
    rw [dropped]
    exact fun _ => List.forall_mem_nil _
  obtain ⟨-, -, found⟩ := drawing (fun _ => "e") alike
  rw [kept] at audits same found
  exact ⟨audits, by decide +kernel, same, found⟩

end Audit

end MigrationAudit
