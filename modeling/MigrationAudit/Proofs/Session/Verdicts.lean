import MigrationAudit.Proofs.Session.Comparison

/-!
# Verdicts on changes

The verdict on a change is what the checks of the catalogue find with it in a session
(`Audit.verdicts`).  Two sessions that go through agendas with the same changes, in schemas that
agree on the tables of these changes, come to the same verdicts but for the two checks that look at
what came before, and their schemas still agree afterwards (`Audit.verdicts_alike`).
-/

namespace MigrationAudit

namespace Audit

variable (a : Audit)

/-- The replay of a change and the further checks on it. -/
def prepare (place : ChangePlace) : Step :=
  .all (a.replayStep place :: a.extraChangeChecks.map (a.extraChangeStep place))

/-- The checks of the catalogue on a change that has been prepared. -/
def dispatch (place : ChangePlace) : Step :=
  .all (ChangeCheck.all.map (a.changeCheckStep place))

theorem judgeChange_eq_andThen (place : ChangePlace) :
    a.judgeChange place = (a.prepare place).andThen (a.dispatch place) :=
  Step.all_append _ _

/-- A change in its place, with what the checks of the catalogue find with it. -/
abbrev Verdict := ChangePlace × Except Failure (List Finding)

def verdict (s : Session) : Item → List Verdict
  | .set _ => []
  | .change place => [(place, (a.dispatch place (a.prepare place s).1).2)]

/-- The verdicts on the changes of an agenda. -/
def verdicts : List Item → Session → List Verdict
  | [], _ => []
  | item :: items, s => a.verdict s item ++ verdicts items (a.judge item s).1

/-- The checks that look at what came before in the session. -/
def sessionChecks : List String :=
  [ChangeCheck.duplicatedIndex.name, ChangeCheck.insertedElsewhere.name]

/-- A finding of a check that looks at one change alone, with one text for all drawn names. -/
def shownAlone (x : Finding) : Option Finding :=
  if x.check ∈ sessionChecks then none else some x.masked

/-- The same is found with the same change, but for the checks that look at what came before. -/
def SameVerdict (v w : Verdict) : Prop :=
  v.1.change = w.1.change ∧
    v.2.map (List.filterMap shownAlone) = w.2.map (List.filterMap shownAlone)

variable {a}

theorem verdicts_append {xs ys : List Item} {s t : Session} {found : List Finding}
    (h : Step.all (xs.map a.judge) s = (t, .ok found)) :
    a.verdicts (xs ++ ys) s = a.verdicts xs s ++ a.verdicts ys t := by
  induction xs generalizing s found with
  | nil =>
    obtain ⟨rfl, -⟩ := Prod.mk.inj h
    rfl
  | cons x xs ih =>
    obtain ⟨s₁, f, g, hx, hxs, rfl⟩ := Step.andThen_eq_ok_iff.mp h
    have hjudge : (a.judge x s).1 = s₁ := by rw [hx]
    simp only [List.cons_append, verdicts, hjudge, ih hxs, List.append_assoc]

/-! ## What the items of an agenda do to the schema -/

theorem prepare_eq_ok {place : ChangePlace} {s t : Session} {found : List Finding}
    (h : a.prepare place s = (t, .ok found)) :
    t.schema = (s.schema.replay a.naming place.change).1 ∧ place.change.script.failure = none := by
  obtain ⟨s₁, f, g, hr, hrest, rfl⟩ := Step.andThen_eq_ok_iff.mp h
  obtain ⟨hs, hfail⟩ := replayStep_eq_ok hr
  have hkeep : ∀ step ∈ a.extraChangeChecks.map (a.extraChangeStep place), step.KeepsSchema := by
    intro step hstep
    obtain ⟨check, -, rfl⟩ := List.mem_map.mp hstep
    exact keepsSchema_unlessIgnored fun _ => rfl
  exact ⟨(Step.all_eq_ok hkeep hrest).1.trans hs, hfail⟩

theorem drawn_le_judge {item : Item} {s t : Session} {found : List Finding}
    (hs : s.schema.Columnar) (h : a.judge item s = (t, .ok found)) :
    t.schema.Columnar ∧ s.schema.drawn ≤ t.schema.drawn := by
  cases item with
  | set place =>
    rw [judgeSet_keeps h]
    exact ⟨hs, le_rfl⟩
  | change place =>
    rw [(judgeChange_eq_ok h).1]
    exact ⟨hs.replay a.naming _, Schema.drawn_le_applyEdits a.naming _ hs⟩

theorem drawn_le_all {items : List Item} {s t : Session} {found : List Finding}
    (hs : s.schema.Columnar) (h : Step.all (items.map a.judge) s = (t, .ok found)) :
    s.schema.drawn ≤ t.schema.drawn := by
  induction items generalizing s found with
  | nil =>
    obtain ⟨rfl, -⟩ := Prod.mk.inj h
    exact le_rfl
  | cons x xs ih =>
    obtain ⟨s₁, f, g, hx, hxs, rfl⟩ := Step.andThen_eq_ok_iff.mp h
    obtain ⟨hs₁, hle⟩ := drawn_le_judge hs hx
    exact hle.trans (ih hs₁ hxs)

/-! ## Agendas with the same changes -/

section Alike

variable {tables : List String} {f : String → String} {more : Nat} {naming' : Naming}

theorem filterMap_shownAlone_tagged {check : String} {issues issues' : List Issue}
    (h : check ∉ sessionChecks → issues.map (Issue.renamed mask) = issues'.map (Issue.renamed mask)) :
    (tagged check issues).filterMap shownAlone = (tagged check issues').filterMap shownAlone := by
  unfold tagged
  rw [List.filterMap_map, List.filterMap_map]
  by_cases hc : check ∈ sessionChecks
  · simp [Function.comp_def, shownAlone, hc]
  · have same := congrArg (List.map (Finding.mk check)) (h hc)
    simpa [Function.comp_def, shownAlone, hc, Finding.masked, Issue.masked_eq_renamed] using same

/-- The checks of the catalogue find the same with a change in schemas that agree on its tables. -/
theorem follows_dispatch {p p' : ChangePlace} (hp : p.Alike p')
    (hd : List.Disjoint p.change.tables tables) :
    Step.Follows (fun s s' => Schema.Agree tables f more s.schema s'.schema) shownAlone shownAlone
      (a.dispatch p) ((a.drawing naming').dispatch p') := by
  refine Step.Follows.all_map fun check _ => ?_
  have hpolicy : (a.drawing naming').policy = a.policy := rfl
  rw [changeCheckStep_eq_checked, changeCheckStep_eq_checked, hp.change, unlessIgnored,
    unlessIgnored, hpolicy]
  split
  swap
  · exact Step.follows_nothing
  split
  · exact Step.follows_nothing
  intro s s' t found hs h
  obtain ⟨rfl, issues, hrun, rfl⟩ := checked_eq_ok h
  cases hscope : check.scope with
  | single =>
    have store := Schema.alike_of_sight hs.columnar hs.columnar' (hs.sight_eq (g := mask) rfl)
    have same := ChangeCheck.run_congr hscope store hp hd a.policy s.memory s'.memory
    obtain ⟨issues', hrun', hissues⟩ := Findings.exists_ok_of_renamed_eq same hrun
    exact ⟨_, _, checked_of_ok hrun', hs, filterMap_shownAlone_tagged fun _ => hissues⟩
  | session =>
    -- what it finds may differ and is not shown, but it has to go through
    obtain ⟨issues', hrun'⟩ : ∃ issues',
        (check.run a.policy s'.schema.store p' s'.memory).1 = .ok issues' := by
      cases check <;> first | exact ⟨_, rfl⟩ | cases hscope
    have hidden : check.name ∈ sessionChecks := by
      cases check <;> first | decide | cases hscope
    exact ⟨_, _, checked_of_ok hrun', hs, filterMap_shownAlone_tagged (absurd hidden)⟩

/-- The items are change sets or places of one change that is alike in both.  The change touches none
of the tables, and the renaming fixes the names that it drops. -/
inductive ItemsAlike (tables : List String) (f : String → String) : Item → Item → Prop
  | set (place place' : SetPlace) : ItemsAlike tables f (.set place) (.set place')
  | change {p p' : ChangePlace} (places : p.Alike p') (respects : p.change.Respects tables f) :
    ItemsAlike tables f (.change p) (.change p')

theorem verdict_alike {x x' : Item} (hx : ItemsAlike tables f x x') {s s' t t' : Session}
    {found found' : List Finding} (hs : Schema.Agree tables f more s.schema s'.schema)
    (h : a.judge x s = (t, .ok found))
    (h' : (a.drawing naming').judge x' s' = (t', .ok found'))
    (hn : ∀ i, s.schema.drawn ≤ i → i < t.schema.drawn →
      f (a.naming i) = f (naming' (i + more))) :
    List.Forall₂ SameVerdict (a.verdict s x) ((a.drawing naming').verdict s' x') ∧
      Schema.Agree tables f more t.schema t'.schema := by
  cases hx with
  | set place place' =>
    rw [judgeSet_keeps h, judgeSet_keeps h']
    exact ⟨.nil, hs⟩
  | @change p p' hp hr =>
    have ht := (judgeChange_eq_ok h).1
    rw [judge, judgeChange_eq_andThen] at h h'
    obtain ⟨s₁, x, y, hprep, hdisp, rfl⟩ := Step.andThen_eq_ok_iff.mp h
    obtain ⟨s₁', x', y', hprep', hdisp', rfl⟩ := Step.andThen_eq_ok_iff.mp h'
    -- the further checks keep the schema, so the checks of the catalogue start after the replay
    have hs₁ := (prepare_eq_ok hprep).1
    have hs₁' := (prepare_eq_ok hprep').1
    rw [hp.change] at hs₁'
    have hagree : Schema.Agree tables f more s₁.schema s₁'.schema := by
      rw [hs₁, hs₁']
      exact hs.replay a.naming naming' hr (ht ▸ hn)
    obtain ⟨u, y'', hu, hsu, hy⟩ :=
      follows_dispatch hp hr.disjoint s₁ s₁' t y hagree hdisp
    rw [hdisp'] at hu
    obtain ⟨rfl, hfound⟩ := Prod.mk.inj hu
    obtain rfl := Except.ok.inj hfound
    refine ⟨.cons ⟨hp.change.symm, ?_⟩ .nil, hsu⟩
    simp only [hprep, hprep', hdisp, hdisp', Except.map, hy]

/-- Sessions that go through agendas with the same changes come to the same verdicts, where their
schemas agree on the tables of the changes and the names that are drawn are the same up to the
renaming. -/
theorem verdicts_alike {xs xs' : List Item} (hx : List.Forall₂ (ItemsAlike tables f) xs xs') :
    ∀ {s s' t t' : Session} {found found' : List Finding},
      Schema.Agree tables f more s.schema s'.schema →
      Step.all (xs.map a.judge) s = (t, .ok found) →
      Step.all (xs'.map (a.drawing naming').judge) s' = (t', .ok found') →
      (∀ i, s.schema.drawn ≤ i → i < t.schema.drawn →
        f (a.naming i) = f (naming' (i + more))) →
      List.Forall₂ SameVerdict (a.verdicts xs s)
          ((a.drawing naming').verdicts xs' s') ∧
        Schema.Agree tables f more t.schema t'.schema := by
  induction hx with
  | nil =>
    intro s s' t t' found found' hs h h' _
    obtain ⟨rfl, -⟩ := Prod.mk.inj h
    obtain ⟨rfl, -⟩ := Prod.mk.inj h'
    exact ⟨.nil, hs⟩
  | @cons x x' xs xs' head _ ih =>
    intro s s' t t' found found' hs h h' hn
    obtain ⟨s₁, f₁, g₁, hfirst, hrest, rfl⟩ := Step.andThen_eq_ok_iff.mp h
    obtain ⟨s₁', f₁', g₁', hfirst', hrest', rfl⟩ := Step.andThen_eq_ok_iff.mp h'
    obtain ⟨hcol, hle⟩ := drawn_le_judge hs.columnar hfirst
    have hlast := drawn_le_all hcol hrest
    obtain ⟨hverdict, hs₁⟩ := verdict_alike head hs hfirst hfirst'
      fun i hi hlt => hn i hi (Nat.lt_of_lt_of_le hlt hlast)
    obtain ⟨hverdicts, ht⟩ := ih hs₁ hrest hrest' fun i hi hlt => hn i (hle.trans hi) hlt
    have hjudge : (a.judge x s).1 = s₁ := by rw [hfirst]
    have hjudge' : ((a.drawing naming').judge x' s').1 = s₁' := by rw [hfirst']
    rw [verdicts, verdicts, hjudge, hjudge']
    exact ⟨List.rel_append hverdict hverdicts, ht⟩

end Alike

end Audit

end MigrationAudit
