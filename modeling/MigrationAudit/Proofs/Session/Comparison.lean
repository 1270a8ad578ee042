import Mathlib.Data.List.Forall2
import MigrationAudit.Proofs.Check.Locality
import MigrationAudit.Proofs.Session.Course

/-!
# Two sessions side by side

A session judges an agenda, item by item: every change set that is not left out and then each of its
changes (`Audit.judgeLogs_eq_all`).  To compare two sessions, one relates the states they are in and
says what is to be seen of a finding.  A step follows another one if from related states it succeeds
where the other does, ends in a related state and shows the same findings; sequences of steps follow
one another if their members do (`Step.Follows.all_map`).
-/

namespace MigrationAudit

namespace Finding

def renamed (f : String → String) (x : Finding) : Finding := { x with issue := x.issue.renamed f }

/-- The finding with one text for all drawn names. -/
def masked (x : Finding) : Finding := { x with issue := x.issue.masked }

theorem masked_eq_renamed : masked = renamed mask := by
  funext x
  simp only [masked, renamed, Issue.masked_eq_renamed]

theorem renamed_id : renamed id = id := by
  funext x
  simp only [renamed, Issue.renamed_id, id]

end Finding

theorem Findings.exists_ok_of_renamed_eq {f : String → String} {found found' : Findings}
    {issues : List Issue} (h : found.renamed f = found'.renamed f) (hok : found = .ok issues) :
    ∃ issues', found' = .ok issues' ∧
      issues.map (Issue.renamed f) = issues'.map (Issue.renamed f) := by
  subst hok
  rcases found' with failure | issues'
  · cases h
  · exact ⟨issues', rfl, Except.ok.inj h⟩

/-! ## Steps in a row -/

namespace Step

/-- What holds of the step that does nothing and passes from two steps to one after the other holds
of any steps in a row. -/
theorem all_induction {P : Step → Prop} (start : P nothing)
    (later : ∀ {first second : Step}, P first → P second → P (first.andThen second)) :
    ∀ {steps : List Step}, (∀ step ∈ steps, P step) → P (all steps)
  | [], _ => start
  | step :: steps, h => by
    have rest := all_induction start later fun st hst => h st (List.mem_cons_of_mem step hst)
    exact later (h step List.mem_cons_self) rest

/-- What holds between steps that do nothing and passes from two steps to one after the other holds
between steps in a row if it holds between each and its counterpart. -/
theorem all_map_related {α : Type} {R : Step → Step → Prop} (start : R nothing nothing)
    (later : ∀ {first first' second second' : Step}, R first first' → R second second' →
      R (first.andThen second) (first'.andThen second')) {f g : α → Step} :
    ∀ {xs : List α}, (∀ x ∈ xs, R (f x) (g x)) → R (all (xs.map f)) (all (xs.map g))
  | [], _ => start
  | x :: xs, h => by
    obtain ⟨head, tail⟩ := List.forall_mem_cons.mp h
    exact later head (all_map_related start later tail)

/-! ## Steps that follow one another -/

/-- From related states the second step succeeds where the first one does, ends in a related state,
and shows the same findings. -/
def Follows (related : Session → Session → Prop) (shown shown' : Finding → Option Finding)
    (first second : Step) : Prop :=
  ∀ s s' t found, related s s' → first s = (t, .ok found) →
    ∃ t' found', second s' = (t', .ok found') ∧ related t t' ∧
      found.filterMap shown = found'.filterMap shown'

variable {related : Session → Session → Prop} {shown shown' : Finding → Option Finding}

theorem follows_nothing : Follows related shown shown' nothing nothing := by
  intro s s' t found hs h
  obtain ⟨rfl, hfound⟩ := Prod.mk.inj h
  obtain rfl := Except.ok.inj hfound
  exact ⟨s', [], rfl, hs, rfl⟩

theorem Follows.andThen {first first' second second' : Step}
    (h : Follows related shown shown' first first')
    (h' : Follows related shown shown' second second') :
    Follows related shown shown' (first.andThen second) (first'.andThen second') := by
  intro s s' u found hs hall
  obtain ⟨t, x, y, hfirst, hsecond, rfl⟩ := andThen_eq_ok_iff.mp hall
  obtain ⟨t', x', hfirst', ht, hx⟩ := h s s' t x hs hfirst
  obtain ⟨u', y', hsecond', hu, hy⟩ := h' t t' u y ht hsecond
  refine ⟨u', x' ++ y', andThen_of_ok hfirst' hsecond', hu, ?_⟩
  rw [List.filterMap_append, List.filterMap_append, hx, hy]

theorem Follows.all_map {α : Type} {first second : α → Step} {xs : List α}
    (h : ∀ x ∈ xs, Follows related shown shown' (first x) (second x)) :
    Follows related shown shown' (Step.all (xs.map first)) (Step.all (xs.map second)) :=
  all_map_related follows_nothing Follows.andThen h

theorem all_map_flatMap {α β : Type} (f : β → Step) (g : α → List β) : ∀ xs : List α,
    all (xs.map fun x => all ((g x).map f)) = all ((xs.flatMap g).map f)
  | [] => rfl
  | x :: xs => by
    rw [List.map_cons, all_cons, all_map_flatMap f g xs, List.flatMap_cons, List.map_append,
      all_append]

end Step

/-! ## Steps that try one check -/

namespace Audit

/-- What a check finds and remembers in a session, as a step. -/
def checked (check : String) (run : Session → Findings × Memory) : Step := fun s =>
  ({ s with memory := (run s).2 }, (run s).1.map (tagged check))

variable (a : Audit)

theorem replayStep_eq (place : ChangePlace) (s : Session) :
    a.replayStep place s = ({ s with schema := (s.schema.replay a.naming place.change).1 },
      place.change.script.failure.elim (.ok []) .error) := by
  unfold replayStep Schema.replay Schema.run
  cases place.change.script.failure <;> rfl

theorem replayStep_eq_ok_iff {place : ChangePlace} {s t : Session} {found : List Finding} :
    a.replayStep place s = (t, .ok found) ↔ place.change.script.failure = none ∧
      t = { s with schema := (s.schema.replay a.naming place.change).1 } ∧ found = [] := by
  rw [replayStep_eq]
  cases place.change.script.failure <;> simp [eq_comm]

theorem setIssues_eq_checked (check : String) (issues : List Issue) :
    setIssues check issues = checked check fun s => (.ok issues, s.memory) := rfl

theorem setCheckStep_eq_checked (place : SetPlace) (check : SetCheck) :
    a.setCheckStep place check = a.unlessIgnored check.name (checked check.name fun s =>
      (.ok (check.run a.policy place s.memory).1, (check.run a.policy place s.memory).2)) := rfl

theorem extraChangeStep_eq_checked (place : ChangePlace) (check : ExtraChangeCheck) :
    a.extraChangeStep place check = a.unlessIgnored check.name (checked check.name fun s =>
      (check.run s.schema.store place, s.memory)) := rfl

theorem changeCheckStep_eq_checked (place : ChangePlace) (check : ChangeCheck) :
    a.changeCheckStep place check =
      if check.appliesTo place.change.element then
        a.unlessIgnored check.name (checked check.name fun s =>
          check.run a.policy s.schema.store place s.memory)
      else .nothing := rfl

theorem checked_eq_ok {check : String} {run : Session → Findings × Memory} {s t : Session}
    {found : List Finding} (h : checked check run s = (t, .ok found)) :
    t = { s with memory := (run s).2 } ∧
      ∃ issues, (run s).1 = .ok issues ∧ found = tagged check issues := by
  obtain ⟨rfl, hfound⟩ := Prod.mk.inj h
  rcases hrun : (run s).1 with failure | issues
  · simp [hrun, Except.map] at hfound
  · rw [hrun] at hfound
    exact ⟨rfl, issues, rfl, (Except.ok.inj hfound).symm⟩

theorem checked_of_ok {check : String} {run : Session → Findings × Memory} {s : Session}
    {issues : List Issue} (h : (run s).1 = .ok issues) :
    checked check run s = ({ s with memory := (run s).2 }, .ok (tagged check issues)) := by
  unfold checked
  rw [h]
  rfl

end Audit

/-! ## What change sets and changes are judged by -/

namespace Audit

variable {a a' : Audit}

theorem unlessIgnored_cases {P : Step → Prop} {check : String} {step : Step}
    (ignored : P .nothing) (tried : P step) : P (a.unlessIgnored check step) := by
  unfold unlessIgnored
  split
  · exact ignored
  · exact tried

section Induction

variable {P : Step → Prop} (start : P .nothing)
  (later : ∀ {first second : Step}, P first → P second → P (first.andThen second))

include start

theorem issueIdStep_cases {place : SetPlace} (tried : ∀ pattern, P (a.unlessIgnored issueIdCheck
    (setIssues issueIdCheck (Check.issueId pattern place)))) : P (a.issueIdStep place) := by
  unfold issueIdStep
  split
  · exact start
  · exact tried _

theorem changeCheckStep_cases {place : ChangePlace} {check : ChangeCheck}
    (tried : check.appliesTo place.change.element = true →
      P (a.unlessIgnored check.name (checked check.name fun s =>
        check.run a.policy s.schema.store place s.memory))) :
    P (a.changeCheckStep place check) := by
  rw [changeCheckStep_eq_checked]
  split
  · next happlies => exact tried happlies
  · exact start

include later

/-- What passes from two steps to one after the other holds of judging a change set if it holds of
all that the set is tried by. -/
theorem judgeSet_induction {place : SetPlace}
    (issueId : ∀ pattern, P (a.unlessIgnored issueIdCheck
      (setIssues issueIdCheck (Check.issueId pattern place))))
    (extra : ∀ check ∈ a.extraSetChecks, P (a.extraSetStep place check))
    (checks : ∀ check, P (a.setCheckStep place check)) : P (a.judgeSet place) := by
  refine Step.all_induction start later ?_
  simp only [List.forall_mem_append, List.forall_mem_cons, List.forall_mem_map]
  exact ⟨⟨issueIdStep_cases start issueId, extra⟩, fun check _ => checks check⟩

/-- What passes from two steps to one after the other holds of judging a change if it holds of the
replay and of all that the change is tried by. -/
theorem judgeChange_induction_applying {place : ChangePlace} (replay : P (a.replayStep place))
    (extra : ∀ check ∈ a.extraChangeChecks, P (a.extraChangeStep place check))
    (checks : ∀ check : ChangeCheck, check.appliesTo place.change.element = true →
      P (a.unlessIgnored check.name (checked check.name fun s =>
        check.run a.policy s.schema.store place s.memory))) : P (a.judgeChange place) := by
  refine Step.all_induction start later ?_
  simp only [List.forall_mem_append, List.forall_mem_cons, List.forall_mem_map]
  exact ⟨⟨replay, extra⟩, fun check _ => changeCheckStep_cases start (checks check)⟩

theorem judgeChange_induction {place : ChangePlace} (replay : P (a.replayStep place))
    (extra : ∀ check ∈ a.extraChangeChecks, P (a.extraChangeStep place check))
    (checks : ∀ check : ChangeCheck, P (a.unlessIgnored check.name (checked check.name fun s =>
      check.run a.policy s.schema.store place s.memory))) : P (a.judgeChange place) :=
  judgeChange_induction_applying start later replay extra fun check _ => checks check

end Induction

section Related

variable {R : Step → Step → Prop} (start : R .nothing .nothing)
  (later : ∀ {first first' second second' : Step}, R first first' → R second second' →
    R (first.andThen second) (first'.andThen second'))

include start later

/-- The same of two audits, where it is a relation that passes from steps to steps in a row. -/
theorem judgeSet_related {place : SetPlace}
    (hpattern : a'.policy.issuePattern = a.policy.issuePattern)
    (hextra : a'.extraSetChecks = a.extraSetChecks)
    (issues : ∀ check issues, R (a.unlessIgnored check (setIssues check issues))
      (a'.unlessIgnored check (setIssues check issues)))
    (checks : ∀ check, R (a.setCheckStep place check) (a'.setCheckStep place check)) :
    R (a.judgeSet place) (a'.judgeSet place) := by
  have issueId : R (a.issueIdStep place) (a'.issueIdStep place) := by
    unfold issueIdStep
    rw [hpattern]
    cases a.policy.issuePattern with
    | none => exact start
    | some pattern => exact issues issueIdCheck _
  have extra : R (.all (a.extraSetChecks.map (a.extraSetStep place)))
      (.all (a.extraSetChecks.map (a'.extraSetStep place))) :=
    Step.all_map_related start later fun check _ => issues check.name _
  simp only [judgeSet, hextra, List.cons_append, Step.all_cons, Step.all_append]
  exact later issueId (later extra (Step.all_map_related start later fun check _ => checks check))

theorem judgeChange_related {place place' : ChangePlace} (hplace : place'.change = place.change)
    (hextra : a'.extraChangeChecks = a.extraChangeChecks)
    (replay : R (a.replayStep place) (a'.replayStep place'))
    (extra : ∀ check ∈ a.extraChangeChecks,
      R (a.extraChangeStep place check) (a'.extraChangeStep place' check))
    (checks : ∀ check : ChangeCheck, R
      (a.unlessIgnored check.name (checked check.name fun s =>
        check.run a.policy s.schema.store place s.memory))
      (a'.unlessIgnored check.name (checked check.name fun s =>
        check.run a'.policy s.schema.store place' s.memory))) :
    R (a.judgeChange place) (a'.judgeChange place') := by
  have tried : ∀ check ∈ ChangeCheck.all,
      R (a.changeCheckStep place check) (a'.changeCheckStep place' check) := by
    intro check _
    rw [changeCheckStep_eq_checked, changeCheckStep_eq_checked, hplace]
    split
    · exact checks check
    · exact start
  simp only [judgeChange, hextra, List.cons_append, Step.all_cons, Step.all_append]
  exact later replay (later (Step.all_map_related start later extra)
    (Step.all_map_related start later tried))

end Related

end Audit

/-! ## The agenda of a session -/

/-- What a session judges one by one. -/
inductive Item where
  | set (place : SetPlace)
  | change (place : ChangePlace)

def SetPlace.items (place : SetPlace) : List Item := .set place :: place.places.map .change

namespace Audit

variable (a : Audit)

/-- The audit with other names for constraints without one. -/
def drawing (naming : Naming) : Audit := { a with naming }

def judge : Item → Step
  | .set place => a.judgeSet place
  | .change place => a.judgeChange place

def itemsIn (log : Changelog) : List Item :=
  (log.places.filter fun place => !a.policy.skips place.changeSet).flatMap SetPlace.items

/-- The change sets that are not left out, each before its changes. -/
def items (logs : List Changelog) : List Item := logs.flatMap a.itemsIn

/-- The names under which the changes of a session look for constraints to drop. -/
def droppedNames (logs : List Changelog) : List String :=
  (a.judged logs).flatMap fun place => place.change.droppedNames

theorem judgePlace_eq_all (place : SetPlace) :
    a.judgePlace place = .all (place.items.map a.judge) := by
  rw [judgePlace, SetPlace.items, List.map_cons, Step.all_cons, List.map_map]
  rfl

theorem judgeLogs_eq_all (logs : List Changelog) :
    a.judgeLogs logs = .all ((a.items logs).map a.judge) := by
  have hlog : a.judgeLog = fun log => .all ((a.itemsIn log).map a.judge) := by
    funext log
    have hplaces : a.judgePlace = fun place => .all (place.items.map a.judge) :=
      funext a.judgePlace_eq_all
    rw [judgeLog, hplaces]
    exact Step.all_map_flatMap a.judge SetPlace.items _
  rw [judgeLogs, hlog]
  exact Step.all_map_flatMap a.judge a.itemsIn logs

theorem mem_judged_of_mem_items {place : ChangePlace} {logs : List Changelog}
    (h : .change place ∈ a.items logs) : place ∈ a.judged logs := by
  simp only [items, itemsIn, List.mem_flatMap] at h
  obtain ⟨log, hlog, set, hset, h⟩ := h
  have hplace : place ∈ set.places := by simpa [SetPlace.items] using h
  exact List.mem_flatMap.mpr ⟨log, hlog, List.mem_flatMap.mpr ⟨set, hset, hplace⟩⟩

end Audit

end MigrationAudit
