import MigrationAudit.Proofs.Session.Draws
import MigrationAudit.Proofs.Session.Failures
import MigrationAudit.Proofs.Session.Insertion
import MigrationAudit.Proofs.Session.Skipping
import MigrationAudit.Proofs.Session.WrittenNames

/-!
# Changes in other groups

How changes are cut into change sets and changelogs decides under which names their issues are
reported, and what is found by three checks that look around.  Nothing else depends on it: two
sessions over the same changes in the same order fail alike or end with the same schema, and the
other checks say the same of each change (`Audit.verdicts_regrouped`).  To the comparison a change
set that is judged as a whole is a step of which nothing is seen (`Step.Unseen`), so the agendas need
to agree in their changes alone (`Regrouped`).
-/

namespace MigrationAudit

/-! ## What is said apart from the place -/

namespace Issue

/-- What an issue says, wherever it stands. -/
def unplaced (i : Issue) : Issue :=
  { i with file := "", changeSetId := none, changeSetAuthor := none }

/-- The issue as one in a change set. -/
def movedTo (place : SetPlace) (i : Issue) : Issue :=
  { i with
    file := place.log.physicalFilePath
    changeSetId := some place.changeSet.id
    changeSetAuthor := place.changeSet.author }

end Issue

/-- What a finding says, wherever it stands and whatever names are drawn. -/
def Finding.remark (x : Finding) : Finding := { x with issue := x.issue.masked.unplaced }

/-- The remarks of other checks than those with the names. -/
def remarkBut (names : List String) (x : Finding) : Option Finding :=
  if x.check ∈ names then none else some x.remark

/-- The names of the checks of changes that look around. -/
def aroundChecks : List String :=
  [ChangeCheck.notNullWithoutDefault.name, ChangeCheck.nullableTenant.name,
    ChangeCheck.insertedElsewhere.name]

/-- The names of all checks to which it matters how changes are grouped. -/
def groupChecks : List String :=
  aroundChecks ++ Audit.issueIdCheck :: SetCheck.all.map SetCheck.name

namespace ChangeCheck

variable {check : ChangeCheck}

theorem name_mem_aroundChecks (h : check.looksAround = true) : check.name ∈ aroundChecks := by
  revert h
  cases check <;> decide

theorem name_not_mem_groupChecks (h : check.looksAround = false) : check.name ∉ groupChecks := by
  revert h
  cases check <;> decide

theorem exists_run_of_looksAround (h : check.looksAround = true) (policy : Policy) (store : Store)
    (place : ChangePlace) (memory : Memory) :
    ∃ issues, (check.run policy store place memory).1 = .ok issues := by
  cases check <;> first | exact ⟨_, rfl⟩ | cases h

end ChangeCheck

namespace Audit

theorem map_remarkBut_tagged (names : List String) (check : String) (found : Findings) :
    (found.map (tagged check)).map (List.filterMap (remarkBut names)) =
      (found.renamed mask).map fun issues =>
        if check ∈ names then [] else tagged check (issues.map Issue.unplaced) := by
  rcases found with failure | issues
  · rfl
  · refine congrArg Except.ok ?_
    unfold tagged
    rw [List.filterMap_map]
    split
    · next h => simp [Function.comp_def, remarkBut, h]
    · next h => simp [Function.comp_def, remarkBut, h, Finding.remark, Issue.masked_eq_renamed]

end Audit

theorem ChangePlace.carriedBy_movedTo {p p' : ChangePlace} (h : p'.change = p.change) :
    p.CarriedBy (Issue.movedTo p'.toSetPlace) p' where
  change := h
  issue field cause := by
    simp only [Issue.ofChange, h]
    rfl

/-! ## Steps of which nothing is seen -/

namespace Step

/-- The step goes through and keeps the schema, and what it finds and remembers belongs to checks
with the names. -/
def Unseen (names : List String) (step : Step) : Prop :=
  ∀ s, ∃ t found, step s = (t, .ok found) ∧ t.schema = s.schema ∧
    t.memory.AlikeBut names s.memory ∧ ∀ x ∈ found, x.check ∈ names

variable {names : List String} {f : String → String} {step : Step}

theorem unseen_nothing : Unseen names nothing :=
  fun s => ⟨s, [], rfl, rfl, Memory.alikeBut_refl _, List.forall_mem_nil _⟩

theorem Unseen.andThen {first second : Step} (h : first.Unseen names) (h' : second.Unseen names) :
    (first.andThen second).Unseen names := by
  intro s
  obtain ⟨t, x, hfirst, schema, memory, hx⟩ := h s
  obtain ⟨u, y, hsecond, schema', memory', hy⟩ := h' t
  exact ⟨u, x ++ y, andThen_of_ok hfirst hsecond, schema'.trans schema, memory'.trans memory,
    List.forall_mem_append.mpr ⟨hx, hy⟩⟩

theorem Unseen.matches_nothing (h : step.Unseen names) :
    Matches (Session.AlikeBut names f) (remarkBut names) step nothing := by
  intro s s' hs
  obtain ⟨t, found, hstep, schema, memory, hfound⟩ := h s
  rw [hstep]
  refine ⟨⟨schema ▸ hs.schema, memory.trans hs.memory⟩, congrArg Except.ok ?_⟩
  exact List.filterMap_eq_nil_iff.mpr fun x hx => if_pos (hfound x hx)

theorem Unseen.nothing_matches (h : step.Unseen names) :
    Matches (Session.AlikeBut names f) (remarkBut names) nothing step := by
  intro s s' hs
  obtain ⟨t, found, hstep, schema, memory, hfound⟩ := h s'
  rw [hstep]
  refine ⟨⟨schema ▸ hs.schema, hs.memory.trans memory.symm⟩, congrArg Except.ok ?_⟩
  exact (List.filterMap_eq_nil_iff.mpr fun x hx => if_pos (hfound x hx)).symm

end Step

namespace Audit

variable {policy : Policy} {naming naming' : Naming} {f : String → String}

theorem unseen_checked {a : Audit} {names : List String} {check : String}
    {run : Session → Findings × Memory} (hcheck : check ∈ names)
    (h : ∀ s, ∃ issues, (run s).1 = .ok issues ∧ (run s).2.AlikeBut names s.memory) :
    (a.unlessIgnored check (checked check run)).Unseen names := by
  refine unlessIgnored_cases Step.unseen_nothing fun s => ?_
  obtain ⟨issues, hrun, memory⟩ := h s
  exact ⟨_, _, checked_of_ok hrun, rfl, memory, List.forall_mem_map.mpr fun _ _ => hcheck⟩

/-- A change set that is judged as a whole makes no difference to the changes. -/
theorem unseen_judgeSet (policy : Policy) (naming : Naming) (place : SetPlace) :
    ((ofPolicy policy naming).judgeSet place).Unseen groupChecks := by
  refine judgeSet_induction Step.unseen_nothing Step.Unseen.andThen (fun pattern => ?_)
    (List.forall_mem_nil _) fun check => ?_
  · rw [setIssues_eq_checked]
    exact unseen_checked (by decide) fun s => ⟨_, rfl, Memory.alikeBut_refl _⟩
  · have group : check.name ∈ groupChecks := by cases check <;> decide
    rw [setCheckStep_eq_checked]
    exact unseen_checked group fun s =>
      ⟨_, rfl, SetCheck.run_alikeBut (Memory.alikeBut_refl _) group policy place⟩

/-! ## One change in two places -/

section Change

variable {p p' : ChangePlace} {names : List String}

theorem matches_changeCheckStep (hp : p'.change = p.change) (hnames : aroundChecks ⊆ names)
    (check : ChangeCheck) :
    Step.Matches (Session.AlikeBut groupChecks f) (remarkBut names)
      ((ofPolicy policy naming).changeCheckStep p check)
      ((ofPolicy policy naming').changeCheckStep p' check) := by
  rw [changeCheckStep_eq_checked, changeCheckStep_eq_checked, hp]
  split
  swap
  · exact Step.matches_nothing
  refine matches_checked rfl fun s s' hs => ?_
  simp only [ofPolicy]
  cases hlooks : check.looksAround with
  | false =>
    -- it finds the same in both sessions, and what it finds is carried to the other place
    have look := hs.schema.sight_eq (g := mask) rfl
    have store := Schema.alike_of_sight hs.schema.columnar hs.schema.columnar' look
    obtain ⟨found, memory⟩ := ChangeCheck.run_both hs.memory
      (ChangeCheck.name_not_mem_groupChecks hlooks) store policy p
    have carried := (ChangePlace.carriedBy_movedTo hp).run_of_not_looksAround policy
      s'.schema.store s'.memory (fun _ _ _ => rfl) hlooks
    rw [carried]
    refine ⟨⟨hs.schema, memory⟩, ?_⟩
    rw [map_remarkBut_tagged, map_remarkBut_tagged, found]
    rcases (check.run policy s'.schema.store p s'.memory).1 with failure | issues
    · rfl
    · refine congrArg Except.ok ?_
      simp only [List.map_map]
      rfl
  | true =>
    have around := ChangeCheck.name_mem_aroundChecks hlooks
    have group : check.name ∈ groupChecks := List.mem_append_left _ around
    have forward := ChangeCheck.run_alikeBut hs.memory group policy s.schema.store p
    have both := ChangeCheck.run_alikeBut forward.symm group policy s'.schema.store p'
    refine ⟨⟨hs.schema, both.symm⟩, ?_⟩
    obtain ⟨issues, hrun⟩ :=
      ChangeCheck.exists_run_of_looksAround hlooks policy s.schema.store p s.memory
    obtain ⟨issues', hrun'⟩ :=
      ChangeCheck.exists_run_of_looksAround hlooks policy s'.schema.store p' s'.memory
    rw [map_remarkBut_tagged, map_remarkBut_tagged, hrun, hrun']
    simp only [Findings.renamed, Except.map, if_pos (hnames around)]

theorem matches_dispatch (hp : p'.change = p.change) (hnames : aroundChecks ⊆ names) :
    Step.Matches (Session.AlikeBut groupChecks f) (remarkBut names)
      ((ofPolicy policy naming).dispatch p) ((ofPolicy policy naming').dispatch p') :=
  Step.Matches.all_map fun check _ => matches_changeCheckStep hp hnames check

theorem matches_prepare (hp : p'.change = p.change) (hc : p.change.Respects [] f)
    (hnaming : ∀ i, f (naming i) = f (naming' i)) :
    Step.Matches (Session.AlikeBut groupChecks f) (remarkBut names)
      ((ofPolicy policy naming).prepare p) ((ofPolicy policy naming').prepare p') := by
  have alone : ∀ naming p,
      (ofPolicy policy naming).prepare p = (ofPolicy policy naming).replayStep p :=
    fun naming p => Step.andThen_nothing _
  rw [alone, alone]
  exact matches_replayStep hp hc hnaming

theorem matches_judgeChange (hp : p'.change = p.change) (hc : p.change.Respects [] f)
    (hnaming : ∀ i, f (naming i) = f (naming' i)) (hnames : aroundChecks ⊆ names) :
    Step.Matches (Session.AlikeBut groupChecks f) (remarkBut names)
      ((ofPolicy policy naming).judgeChange p) ((ofPolicy policy naming').judgeChange p') := by
  rw [judgeChange_eq_andThen, judgeChange_eq_andThen]
  exact (matches_prepare hp hc hnaming).andThen (matches_dispatch hp hnames)

end Change

end Audit

/-! ## Agendas of the same changes -/

/-- The agendas hold the same changes in the same order, in any change sets. -/
inductive Regrouped : List Item → List Item → Prop
  | nil : Regrouped [] []
  | set_left (place : SetPlace) {xs ys : List Item} (rest : Regrouped xs ys) :
    Regrouped (.set place :: xs) ys
  | set_right (place : SetPlace) {xs ys : List Item} (rest : Regrouped xs ys) :
    Regrouped xs (.set place :: ys)
  | change {p p' : ChangePlace} (same : p'.change = p.change) {xs ys : List Item}
    (rest : Regrouped xs ys) : Regrouped (.change p :: xs) (.change p' :: ys)

theorem regrouped_of_changes_eq : ∀ {xs ys : List Item},
    xs.flatMap Item.changes = ys.flatMap Item.changes → Regrouped xs ys
  | [], [], _ => .nil
  | .set place :: _, _, h => .set_left place (regrouped_of_changes_eq h)
  | [], .set place :: _, h => .set_right place (regrouped_of_changes_eq h)
  | .change _ :: _, .set place :: _, h => .set_right place (regrouped_of_changes_eq h)
  | [], .change _ :: _, h => by cases h
  | .change _ :: _, [], h => by cases h
  | .change _ :: _, .change _ :: _, h =>
    .change (List.cons.inj h).1.symm (regrouped_of_changes_eq (List.cons.inj h).2)

namespace Audit

/-- The same remarks are made on the same change, but for those of the checks that look around. -/
def SameRemarks (v w : Verdict) : Prop :=
  v.1.change = w.1.change ∧ v.2.map (List.filterMap (remarkBut aroundChecks)) =
    w.2.map (List.filterMap (remarkBut aroundChecks))

section Agendas

variable {policy : Policy} {naming naming' : Naming} {f : String → String} {xs ys : List Item}

/-- Agendas of the same changes fail alike or end with the same schema. -/
theorem matches_regrouped (h : Regrouped xs ys)
    (hr : ∀ c ∈ xs.flatMap Item.changes, c.Respects [] f)
    (hnaming : ∀ i, f (naming i) = f (naming' i)) :
    Step.Matches (Session.AlikeBut groupChecks f) (remarkBut groupChecks)
      (.all (xs.map (ofPolicy policy naming).judge))
      (.all (ys.map (ofPolicy policy naming').judge)) := by
  induction h with
  | nil => exact Step.matches_nothing
  | @set_left place xs ys _ ih =>
    rw [← Step.nothing_andThen (Step.all (ys.map _))]
    exact (unseen_judgeSet policy naming place).matches_nothing.andThen (ih hr)
  | @set_right place xs ys _ ih =>
    rw [← Step.nothing_andThen (Step.all (xs.map _))]
    exact (unseen_judgeSet policy naming' place).nothing_matches.andThen (ih hr)
  | @change p p' same xs ys _ ih =>
    obtain ⟨hc, hr⟩ := List.forall_mem_cons.mp hr
    refine Step.Matches.andThen ?_ (ih hr)
    exact matches_judgeChange same hc hnaming (List.subset_append_left _ _)

/-- In agendas of the same changes the same remarks are made on each of them. -/
theorem sameRemarks_regrouped (h : Regrouped xs ys)
    (hr : ∀ c ∈ xs.flatMap Item.changes, c.Respects [] f)
    (hnaming : ∀ i, f (naming i) = f (naming' i)) :
    ∀ {s s' : Session}, Session.AlikeBut groupChecks f s s' →
      List.Forall₂ SameRemarks ((ofPolicy policy naming).verdicts xs s)
        ((ofPolicy policy naming').verdicts ys s') := by
  induction h with
  | nil => exact fun _ => .nil
  | @set_left place xs ys _ ih =>
    intro s s' hs
    have after := ((unseen_judgeSet policy naming place).matches_nothing s s' hs).1
    exact ih hr after
  | @set_right place xs ys _ ih =>
    intro s s' hs
    have after := ((unseen_judgeSet policy naming' place).nothing_matches s s' hs).1
    exact ih hr after
  | @change p p' same xs ys _ ih =>
    intro s s' hs
    obtain ⟨hc, hr⟩ := List.forall_mem_cons.mp hr
    have prepared : Step.Matches (Session.AlikeBut groupChecks f) (remarkBut aroundChecks)
        ((ofPolicy policy naming).prepare p) ((ofPolicy policy naming').prepare p') :=
      matches_prepare same hc hnaming
    have dispatched : Step.Matches (Session.AlikeBut groupChecks f) (remarkBut aroundChecks)
        ((ofPolicy policy naming).dispatch p) ((ofPolicy policy naming').dispatch p') :=
      matches_dispatch same (List.Subset.refl _)
    have judged : Step.Matches (Session.AlikeBut groupChecks f) (remarkBut aroundChecks)
        ((ofPolicy policy naming).judgeChange p) ((ofPolicy policy naming').judgeChange p') :=
      matches_judgeChange same hc hnaming (List.Subset.refl _)
    have remarks := (dispatched _ _ (prepared s s' hs).1).2
    exact .cons ⟨same.symm, remarks⟩ (ih hr (judged s s' hs).1)

end Agendas

/-! ## Sessions over the same changes -/

/-- Without a skip list a session judges all changes that are written in the changelogs. -/
theorem changes_items_of_skipped {a : Audit} (h : a.policy.skipped = []) (logs : List Changelog) :
    (a.items logs).flatMap Item.changes = logs.flatMap Changelog.changes := by
  have skips : ∀ set, a.policy.skips set = false := by
    intro set
    simp [Policy.skips, h]
  simp only [items, itemsIn_eq, List.flatMap_assoc, changes_itemsOfSet, skips, Bool.false_eq_true,
    if_false]
  rfl

theorem map_eq_error_iff {ε α β : Type} {f : α → β} {r : Except ε α} {failure : ε} :
    r.map f = .error failure ↔ r = .error failure := by
  rcases r with other | x <;> simp [Except.map]

/-- It makes no difference to the changes how they are grouped.  Under settings that skip nothing,
two sessions over changelogs with the same changes in the same order fail with the same failure or
both succeed; they end with the same store, up to the drawn names; and of each change every check of
the catalogue says the same of the same elements and attributes, but for three checks that look
around. -/
theorem verdicts_regrouped {settings : Settings} (hskip : settings.skipChangeSets = [])
    {logs logs' : List Changelog}
    (hchanges : logs.flatMap Changelog.changes = logs'.flatMap Changelog.changes)
    {naming naming' : Naming} (halike : Naming.Alike
      ((logs.flatMap Changelog.changes).flatMap Change.droppedNames) naming naming') :
    (∀ failure, auditChangelogs naming settings logs = .error failure ↔
        auditChangelogs naming' settings logs' = .error failure) ∧
      ∀ policy, Policy.ofSettings settings = .ok policy →
        let a := ofPolicy policy naming
        let a' := ofPolicy policy naming'
        let r := a.judgeLogs logs .empty
        let r' := a'.judgeLogs logs' .empty
        (∀ failure, r.2 = .error failure ↔ r'.2 = .error failure) ∧
          r.1.schema.store.masked = r'.1.schema.store.masked ∧
          (a.verdicts (a.items logs) .empty).map (·.1.change) = logs.flatMap Changelog.changes ∧
          List.Forall₂ SameRemarks (a.verdicts (a.items logs) .empty)
            (a'.verdicts (a'.items logs') .empty) := by
  obtain ⟨f, hfix, hnaming⟩ := halike.exists_renaming
  have hr : ∀ c ∈ logs.flatMap Changelog.changes, c.Respects [] f := fun c hc =>
    ⟨List.disjoint_nil_right _, fun name hname =>
      hfix name (List.mem_flatMap.mpr ⟨c, hc, hname⟩)⟩
  have sessions : ∀ policy, Policy.ofSettings settings = .ok policy →
      let a := ofPolicy policy naming
      let a' := ofPolicy policy naming'
      let r := a.judgeLogs logs .empty
      let r' := a'.judgeLogs logs' .empty
      (∀ failure, r.2 = .error failure ↔ r'.2 = .error failure) ∧
        r.1.schema.store.masked = r'.1.schema.store.masked ∧
        (a.verdicts (a.items logs) .empty).map (·.1.change) = logs.flatMap Changelog.changes ∧
        List.Forall₂ SameRemarks (a.verdicts (a.items logs) .empty)
          (a'.verdicts (a'.items logs') .empty) := by
    intro policy hpolicy a a' r r'
    have skipped : policy.skipped = [] := (Policy.skipped_of_ofSettings hpolicy).trans hskip
    have changes : (a.items logs).flatMap Item.changes = logs.flatMap Changelog.changes :=
      changes_items_of_skipped skipped logs
    have regrouped : Regrouped (a.items logs) (a'.items logs') := by
      refine regrouped_of_changes_eq ?_
      rw [changes, changes_items_of_skipped skipped logs', hchanges]
    rw [← changes] at hr
    have start : Session.AlikeBut groupChecks f .empty .empty :=
      ⟨.refl Schema.columnar_empty, Memory.alikeBut_refl _⟩
    obtain ⟨hs, found⟩ := matches_regrouped regrouped hr hnaming .empty .empty start
    rw [← judgeLogs_eq_all, ← judgeLogs_eq_all] at hs found
    refine ⟨fun failure => ?_, ?_, ?_, sameRemarks_regrouped regrouped hr hnaming start⟩
    · rw [← map_eq_error_iff, found, map_eq_error_iff]
    · exact Schema.masked_eq hs.schema.columnar hs.schema.columnar' (hs.schema.sight_eq rfl)
    · rw [verdicts_map_change, changes]
  refine ⟨fun failure => ?_, sessions⟩
  cases hpolicy : Policy.ofSettings settings with
  | error other => rw [auditChangelogs_of_error hpolicy, auditChangelogs_of_error hpolicy]
  | ok policy =>
    obtain ⟨failures, -⟩ := sessions policy hpolicy
    rw [auditChangelogs_of_ok hpolicy, auditChangelogs_of_ok hpolicy, map_eq_error_iff,
      map_eq_error_iff, failures]

/-- The changes of the log with a nameless key, each in a changelog of its own. -/
def scatteredLogs : List Changelog := keyedColumnLog.changes.map fun c => .ofChanges [c]

theorem verdicts_regrouped_scattered :
    let settings := { Settings.default with issuePattern := none }
    (auditChangelogs (fun _ => "d") settings [keyedColumnLog]).map List.length = .ok 2 ∧
      (auditChangelogs (fun _ => "e") settings scatteredLogs).map List.length = .ok 4 ∧
      ((ofPolicy .plain fun _ => "d").judgeLogs [keyedColumnLog] .empty).1.schema.store.masked =
        ((ofPolicy .plain fun _ => "e").judgeLogs scatteredLogs .empty).1.schema.store.masked ∧
      List.Forall₂ SameRemarks
        ((ofPolicy .plain fun _ => "d").verdicts
          ((ofPolicy .plain fun _ => "d").items [keyedColumnLog]) .empty)
        ((ofPolicy .plain fun _ => "e").verdicts
          ((ofPolicy .plain fun _ => "e").items scatteredLogs) .empty) := by
  intro settings
  have resolved : Policy.ofSettings { Settings.default with issuePattern := none } =
    .ok plain.policy := rfl
  have changes : [keyedColumnLog].flatMap Changelog.changes =
      scatteredLogs.flatMap Changelog.changes := by decide +kernel
  have dropped : ([keyedColumnLog].flatMap Changelog.changes).flatMap Change.droppedNames = [] := by
    decide +kernel
  have alike : Naming.Alike (([keyedColumnLog].flatMap Changelog.changes).flatMap
      Change.droppedNames) (fun _ => "d") fun _ => "e" := by
    rw [dropped]
    exact fun _ => List.forall_mem_nil _
  have skips : settings.skipChangeSets = [] := rfl
  obtain ⟨-, sessions⟩ := verdicts_regrouped skips changes alike
  obtain ⟨-, store, -, remarks⟩ := sessions .plain resolved
  exact ⟨by decide +kernel, by decide +kernel, store, remarks⟩

end Audit

end MigrationAudit
