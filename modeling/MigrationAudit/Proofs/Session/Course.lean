import Mathlib.Data.List.Induction
import MigrationAudit.Proofs.Changelog.Plain
import MigrationAudit.Proofs.Schema.Columns
import MigrationAudit.Session.Basic

/-!
# The course of a session

A session that succeeds has judged the changes of all sets that are not left out, one after the
other (`Audit.judged`), and passed from one session to the next (`Audit.passes_judgeLogs`).  Only
the replay of a change touches the schema, so wherever a session passes its schema is the replay of
the changes judged so far (`Passes.schema_eq`).  What a check finds with a change is part of what the
session finds; a check that finds nothing in a session was silent at each change it applies to
(`Passes.silent`).
-/

namespace MigrationAudit

/-! ## Steps -/

namespace Step

theorem andThen_eq_ok_iff {first second : Step} {s u : Session} {found : List Finding} :
    first.andThen second s = (u, .ok found) ↔
      ∃ t f g, first s = (t, .ok f) ∧ second t = (u, .ok g) ∧ found = f ++ g := by
  constructor
  · intro h
    unfold andThen at h
    rcases hf : first s with ⟨t, failure | f⟩ <;> rw [hf] at h
    · simp at h
    · rcases hg : second t with ⟨v, failure | g⟩ <;> simp only [hg] at h
      · simp at h
      · simp only [Prod.mk.injEq, Except.ok.injEq] at h
        obtain ⟨rfl, rfl⟩ := h
        exact ⟨t, f, g, rfl, hg, rfl⟩
  · rintro ⟨t, f, g, hf, hg, rfl⟩
    exact andThen_of_ok hf hg

/-- The session after a step is whatever it is, so to know the step is to know what it found. -/
theorem eq_mk_of_snd {step : Step} {s : Session} {r : Except Failure (List Finding)}
    (h : (step s).2 = r) : step s = ((step s).1, r) := by
  rw [← h]

def KeepsSchema (step : Step) : Prop := ∀ s, (step s).1.schema = s.schema

theorem keepsSchema_nothing : KeepsSchema nothing := fun _ => rfl

/-- Each of several steps that keep the schema starts at the schema of the first, and what it finds
is part of what they find together. -/
theorem all_eq_ok : ∀ {steps : List Step} {s t : Session} {found : List Finding},
    (∀ step ∈ steps, step.KeepsSchema) → all steps s = (t, .ok found) →
      t.schema = s.schema ∧ ∀ step ∈ steps, ∃ s' t' f, s'.schema = s.schema ∧
        step s' = (t', .ok f) ∧ f ⊆ found
  | [], s, t, found, _, h => by
    obtain ⟨rfl, rfl⟩ : s = t ∧ [] = found := by simpa [nothing] using h
    exact ⟨rfl, by simp⟩
  | step :: steps, s, t, found, hk, h => by
    obtain ⟨s₁, f, g, hs, hrest, rfl⟩ := andThen_eq_ok_iff.mp h
    obtain ⟨ht, ih⟩ := all_eq_ok (fun st hst => hk st (List.mem_cons_of_mem step hst)) hrest
    have h₁ : s₁.schema = s.schema := by
      have hstep := hk step List.mem_cons_self s
      rwa [hs] at hstep
    refine ⟨ht.trans h₁, fun st hst => ?_⟩
    rcases List.mem_cons.mp hst with rfl | hst
    · exact ⟨s, s₁, f, rfl, hs, List.subset_append_left f g⟩
    · obtain ⟨s', t', f', hs', hst', hf'⟩ := ih st hst
      exact ⟨s', t', f', hs'.trans h₁, hst', List.subset_append_of_subset_right f hf'⟩

end Step

theorem ChangeCheck.mem_all (check : ChangeCheck) : check ∈ all := by
  cases check <;> decide

namespace Audit

open Step

/-- The audit under the plain policy. -/
def plain : Audit := ofPolicy .plain fun _ => ""

variable {a : Audit}

/-! ## Change sets and changes -/

theorem keepsSchema_unlessIgnored {check : String} {step : Step} (h : step.KeepsSchema) :
    (a.unlessIgnored check step).KeepsSchema := by
  unfold unlessIgnored
  split
  · exact keepsSchema_nothing
  · exact h

theorem keepsSchema_changeCheckStep (place : ChangePlace) (check : ChangeCheck) :
    (a.changeCheckStep place check).KeepsSchema := by
  unfold changeCheckStep
  split
  · exact keepsSchema_unlessIgnored fun _ => rfl
  · exact keepsSchema_nothing

theorem keepsSchema_issueIdStep (place : SetPlace) : (a.issueIdStep place).KeepsSchema := by
  unfold issueIdStep
  split
  · exact keepsSchema_nothing
  · exact keepsSchema_unlessIgnored fun _ => rfl

theorem judgeSet_keeps {place : SetPlace} {s t : Session} {found : List Finding}
    (h : a.judgeSet place s = (t, .ok found)) : t.schema = s.schema := by
  refine (all_eq_ok ?_ h).1
  intro step hstep
  simp only [List.mem_append, List.mem_cons, List.mem_map] at hstep
  rcases hstep with (rfl | ⟨check, -, rfl⟩) | ⟨check, -, rfl⟩
  · exact keepsSchema_issueIdStep place
  · exact keepsSchema_unlessIgnored fun _ => rfl
  · exact keepsSchema_unlessIgnored fun _ => rfl

theorem replayStep_eq_ok {place : ChangePlace} {s t : Session} {found : List Finding}
    (h : a.replayStep place s = (t, .ok found)) :
    t.schema = (s.schema.replay a.naming place.change).1 ∧ place.change.script.failure = none := by
  unfold replayStep at h
  split at h
  · next schema hr =>
    obtain ⟨rfl, -⟩ := Prod.mk.inj h
    have hf := Schema.replay_failure a.naming s.schema place.change
    rw [hr] at hf ⊢
    exact ⟨rfl, hf.symm⟩
  · simp at h

/-- A change that is judged is replayed without failure, and what a check then finds with it is part
of what is found. -/
theorem judgeChange_eq_ok {place : ChangePlace} {s t : Session} {found : List Finding}
    (h : a.judgeChange place s = (t, .ok found)) :
    t.schema = (s.schema.replay a.naming place.change).1 ∧ place.change.script.failure = none ∧
      ∀ check : ChangeCheck, check.appliesTo place.change.element = true →
        a.policy.ignores check.name = false →
          ∃ memory issues, (check.run a.policy t.schema.store place memory).1 = .ok issues ∧
            ∀ i ∈ issues, ⟨check.name, i⟩ ∈ found := by
  obtain ⟨s₁, f, g, hr, hrest, rfl⟩ := andThen_eq_ok_iff.mp h
  obtain ⟨hs, hf⟩ := replayStep_eq_ok hr
  have hkeep : ∀ step ∈ a.extraChangeChecks.map (a.extraChangeStep place) ++
      ChangeCheck.all.map (a.changeCheckStep place), step.KeepsSchema := by
    intro step hstep
    simp only [List.mem_append, List.mem_map] at hstep
    rcases hstep with ⟨check, -, rfl⟩ | ⟨check, -, rfl⟩
    · exact keepsSchema_unlessIgnored fun _ => rfl
    · exact keepsSchema_changeCheckStep place check
  obtain ⟨ht, hall⟩ := all_eq_ok hkeep hrest
  refine ⟨ht.trans hs, hf, fun check happ hign => ?_⟩
  obtain ⟨s', t', issues, hs', hstep, hsub⟩ :=
    hall _ (List.mem_append_right _ (List.mem_map_of_mem check.mem_all))
  simp only [changeCheckStep, happ, if_true, unlessIgnored, hign, Bool.false_eq_true,
    if_false, Prod.mk.injEq] at hstep
  rw [hs', ← ht] at hstep
  refine ⟨s'.memory, ?_⟩
  cases hrun : (check.run a.policy t.schema.store place s'.memory).1 with
  | error failure =>
    rw [hrun] at hstep
    simp [Except.map] at hstep
  | ok found =>
    rw [hrun] at hstep
    obtain ⟨-, htag⟩ := hstep
    obtain rfl : tagged check.name found = issues := by simpa [Except.map] using htag
    refine ⟨found, rfl, fun i hi => List.mem_append_right _ (hsub ?_)⟩
    exact List.mem_map_of_mem hi

/-! ## Runs of changes -/

/-- A session that succeeds comes by a session with some changes judged and some findings. -/
inductive Passes (a : Audit) : List ChangePlace → Session → List Finding → Prop
  | start : a.Passes [] .empty []
  | set {judged : List ChangePlace} {s t : Session} {found more : List Finding} {place : SetPlace}
    (before : a.Passes judged s found) (step : a.judgeSet place s = (t, .ok more)) :
    a.Passes judged t (found ++ more)
  | change {judged : List ChangePlace} {s t : Session} {found more : List Finding}
    {place : ChangePlace} (before : a.Passes judged s found)
    (step : a.judgeChange place s = (t, .ok more)) : a.Passes (judged ++ [place]) t (found ++ more)

/-- The schema after changes have been judged. -/
def schemaAfter (a : Audit) (judged : List ChangePlace) : Schema :=
  Schema.empty.replayAll a.naming (judged.map (·.change))

theorem schemaAfter_append (judged : List ChangePlace) (place : ChangePlace) :
    a.schemaAfter (judged ++ [place]) =
      ((a.schemaAfter judged).replay a.naming place.change).1 := by
  rw [schemaAfter, List.map_append, Schema.replayAll_append]
  rfl

/-- What holds before the first of several changes and is kept by each of them holds after all. -/
theorem prefix_induction {P : List ChangePlace → Prop} {judged : List ChangePlace} (start : P [])
    (step : ∀ earlier place, earlier ++ [place] <+: judged → P earlier → P (earlier ++ [place])) :
    ∀ earlier, earlier <+: judged → P earlier := by
  intro earlier
  induction earlier using List.reverseRecOn with
  | nil => exact fun _ => start
  | append_singleton earlier place ih =>
    exact fun hp => step earlier place hp (ih ((List.prefix_append _ _).trans hp))

/-- What a session starts with and every judged change keeps holds after all of them. -/
theorem schemaAfter_induction {P : Schema → Prop} {judged : List ChangePlace} (start : P .empty)
    (step : ∀ earlier place, earlier ++ [place] <+: judged → P (a.schemaAfter earlier) →
      P (a.schemaAfter (earlier ++ [place]))) :
    ∀ earlier, earlier <+: judged → P (a.schemaAfter earlier) :=
  prefix_induction (P := fun earlier => P (a.schemaAfter earlier)) start step

theorem reachable_schemaAfter (judged : List ChangePlace) :
    (a.schemaAfter judged).Reachable a.naming := ⟨_, rfl⟩

namespace Passes

variable {judged : List ChangePlace} {s : Session} {found : List Finding}

theorem schema_eq (h : a.Passes judged s found) : s.schema = a.schemaAfter judged := by
  induction h with
  | start => rfl
  | set before step ih => rw [judgeSet_keeps step, ih]
  | change before step ih => rw [schemaAfter_append, (judgeChange_eq_ok step).1, ih]

/-- A check that finds nothing in a session finds nothing with any change it applies to. -/
theorem silent (h : a.Passes judged s found) {check : ChangeCheck}
    (hign : a.policy.ignores check.name = false) (hq : ∀ f ∈ found, f.check ≠ check.name)
    {earlier : List ChangePlace} {place : ChangePlace} (hp : earlier ++ [place] <+: judged)
    (happ : check.appliesTo place.change.element = true) :
    ∃ memory, (check.run a.policy (a.schemaAfter (earlier ++ [place])).store place memory).1 =
      .ok [] := by
  induction h with
  | start => simp at hp
  | set before step ih => exact ih (fun f hf => hq f (List.mem_append_left _ hf)) hp
  | @change judged s t found more place' before step ih =>
    rcases List.prefix_concat_iff.mp hp with heq | hp
    · obtain ⟨rfl, hplace⟩ := List.append_inj' heq rfl
      obtain rfl : place = place' := by simpa using hplace
      obtain ⟨ht, -, hrun⟩ := judgeChange_eq_ok step
      obtain ⟨memory, issues, hrun, hmem⟩ := hrun check happ hign
      rw [ht, before.schema_eq, ← schemaAfter_append] at hrun
      have hnil : issues = [] := by
        refine List.eq_nil_iff_forall_not_mem.mpr fun i hi => ?_
        exact hq _ (List.mem_append_right _ (hmem i hi)) rfl
      exact ⟨memory, hnil ▸ hrun⟩
    · exact ih (fun f hf => hq f (List.mem_append_left _ hf)) hp

theorem failure_eq_none (h : a.Passes judged s found) :
    ∀ place ∈ judged, place.change.script.failure = none := by
  induction h with
  | start => simp
  | set before step ih => exact ih
  | change before step ih =>
    intro place hplace
    rcases List.mem_append.mp hplace with hplace | hplace
    · exact ih place hplace
    · rw [List.mem_singleton.mp hplace]
      exact (judgeChange_eq_ok step).2.1

end Passes

/-! ## Changelogs -/

/-- The changes of a changelog that are judged. -/
def judgedIn (a : Audit) (log : Changelog) : List ChangePlace :=
  (log.places.filter fun place => !a.policy.skips place.changeSet).flatMap SetPlace.places

/-- The changes that a session over changelogs judges. -/
def judged (a : Audit) (logs : List Changelog) : List ChangePlace := logs.flatMap a.judgedIn

/-- The step judges the places. -/
def Advances (a : Audit) (step : Step) (places : List ChangePlace) : Prop :=
  ∀ judged s found t more, a.Passes judged s found → step s = (t, .ok more) →
    a.Passes (judged ++ places) t (found ++ more)

theorem Advances.andThen {first second : Step} {places more : List ChangePlace}
    (h : a.Advances first places) (h' : a.Advances second more) :
    a.Advances (first.andThen second) (places ++ more) := by
  intro judged s found u all hs hall
  obtain ⟨t, f, g, hf, hg, rfl⟩ := andThen_eq_ok_iff.mp hall
  rw [← List.append_assoc, ← List.append_assoc]
  exact h' _ _ _ _ _ (h _ _ _ _ _ hs hf) hg

theorem advances_all {α : Type} {f : α → Step} {g : α → List ChangePlace}
    (h : ∀ x, a.Advances (f x) (g x)) : ∀ xs : List α,
      a.Advances (Step.all (xs.map f)) (xs.flatMap g)
  | [] => by
    intro judged s found t more hs hall
    obtain ⟨rfl, rfl⟩ : s = t ∧ [] = more := by simpa [nothing] using hall
    simpa using hs
  | x :: xs => Advances.andThen (h x) (advances_all h xs)

theorem advances_judgePlace (place : SetPlace) : a.Advances (a.judgePlace place) place.places := by
  have hset : a.Advances (a.judgeSet place) [] := by
    intro judged s found t more hs hstep
    rw [List.append_nil]
    exact hs.set hstep
  have hchanges : a.Advances (.all (place.places.map a.judgeChange)) place.places := by
    have hone : ∀ p : ChangePlace, a.Advances (a.judgeChange p) [p] :=
      fun p _ _ _ _ _ hs hstep => hs.change hstep
    have hall := advances_all hone place.places
    rwa [List.flatMap_singleton'] at hall
  exact hset.andThen hchanges

/-- A session that succeeds passes by its end with all changes of the changelogs judged. -/
theorem passes_judgeLogs {logs : List Changelog} {s : Session} {found : List Finding}
    (h : a.judgeLogs logs .empty = (s, .ok found)) : a.Passes (a.judged logs) s found := by
  have hlog : ∀ log, a.Advances (a.judgeLog log) (a.judgedIn log) :=
    fun log => advances_all advances_judgePlace _
  exact advances_all hlog logs [] .empty [] s found .start h

section Settings

variable {settings : Settings} {naming : Naming} {logs : List Changelog}

/-- An audit under settings is a session under the policy that they are resolved to. -/
theorem auditChangelogs_of_ok {policy : Policy} (h : Policy.ofSettings settings = .ok policy) :
    auditChangelogs naming settings logs =
      ((ofPolicy policy naming).judgeLogs logs .empty).2.map (List.map Finding.issue) := by
  unfold auditChangelogs
  rw [h]
  simp only [bind, Except.bind]
  cases ((ofPolicy policy naming).judgeLogs logs .empty).2 <;> rfl

theorem auditChangelogs_of_error {failure : Failure}
    (h : Policy.ofSettings settings = .error failure) :
    auditChangelogs naming settings logs = .error failure := by
  unfold auditChangelogs
  rw [h]
  rfl

end Settings

end Audit

end MigrationAudit
