import MigrationAudit.Proofs.Session.Accounts
import MigrationAudit.Proofs.Session.Declarers
import MigrationAudit.Proofs.Session.Skipping

/-!
# Changelogs that resemble one another

Where a changelog gives way to one that resembles it, all checks find the same but for that of
declared change sets, which alone looks at the logical path itself
(`Audit.matches_all_resembling`).  Of a change set it finds the same exactly if in both sessions the
same file declared it first, and so the sessions find the same at each item exactly if their change
sets agree in this (`Audit.accounts_eq_iff`).
-/

namespace MigrationAudit

/-- The sessions have the same schema and remember the same but for the parts of the checks with the
names. -/
structure Session.SameBut (names : List String) (s s' : Session) : Prop where
  schema : s.schema = s'.schema
  memory : s.memory.AlikeBut names s'.memory

theorem Findings.renamed_id (found : Findings) : found.renamed id = found := by
  rcases found with failure | issues
  · rfl
  · simp [Findings.renamed, Except.map, Issue.renamed_id]

/-- Steps that match in whatever they find come to the same. -/
theorem Step.Matches.snd_eq {related : Session → Session → Prop} {first second : Step}
    (h : Matches related some first second) {s s' : Session} (hs : related s s') :
    (second s').2 = (first s).2 := by
  have same := (h s s' hs).2
  have whole : List.filterMap (some : Finding → Option Finding) = id :=
    funext fun _ => List.filterMap_some
  rw [whole] at same
  rcases hfirst : (first s).2 with failure | found <;>
    rcases hsecond : (second s').2 with failure' | found' <;>
      rw [hfirst, hsecond] at same <;> cases same <;> rfl

theorem Step.Matches.of_some {related : Session → Session → Prop}
    {shown : Finding → Option Finding} {first second : Step}
    (h : Matches related some first second) : Matches related shown first second := fun s s' hs =>
  ⟨(h s s' hs).1, by rw [h.snd_eq hs]⟩

/-- The name of the check of declared change sets. -/
abbrev duplicatedId : String := SetCheck.duplicatedSet.name

namespace Audit

variable {policy : Policy} {naming : Naming} {log' : Changelog}

/-! ## Items in changelogs that resemble one another -/

theorem matches_judgeChange_within {place : ChangePlace} (h : place.log.Resembles log') :
    Step.Matches (Session.SameBut [duplicatedId]) some
      ((ofPolicy policy naming).judgeChange place)
      ((ofPolicy policy naming).judgeChange (place.within log')) := by
  have replay : Step.Matches (Session.SameBut [duplicatedId]) some
      ((ofPolicy policy naming).replayStep place)
      ((ofPolicy policy naming).replayStep (place.within log')) := by
    intro s s' hs
    rw [replayStep_eq, replayStep_eq, ← hs.schema]
    exact ⟨⟨rfl, hs.memory⟩, rfl⟩
  refine judgeChange_related Step.matches_nothing Step.Matches.andThen rfl rfl replay
    (List.forall_mem_nil _) fun check => matches_checked rfl fun s s' hs => ?_
  have other : check.name ∉ [duplicatedId] := by cases check <;> decide
  have store : s.schema.store.Alike [] id s'.schema.store := fun q _ => by rw [hs.schema]
  obtain ⟨found, memory⟩ := ChangeCheck.run_both hs.memory other store policy place
  rw [Findings.renamed_id, Findings.renamed_id] at found
  rw [ChangeCheck.run_within h]
  exact ⟨⟨hs.schema, memory⟩, by rw [ofPolicy, found]⟩

theorem matches_setCheckStep_within {place : SetPlace} (h : place.log.Resembles log')
    {check : SetCheck} (hcheck : check ≠ .duplicatedSet) :
    Step.Matches (Session.SameBut [duplicatedId]) some
      ((ofPolicy policy naming).setCheckStep place check)
      ((ofPolicy policy naming).setCheckStep (place.within log') check) := by
  rw [setCheckStep_eq_checked, setCheckStep_eq_checked]
  refine matches_checked rfl fun s s' hs => ?_
  have other : check.name ∉ [duplicatedId] := by
    cases check <;> first | exact absurd rfl hcheck | decide
  obtain ⟨found, memory⟩ := SetCheck.run_both hs.memory other policy place
  simp only [SetCheck.run_within h hcheck, ofPolicy]
  exact ⟨⟨hs.schema, memory⟩, by rw [found]⟩

theorem matches_untilDuplicates_within {place : SetPlace} (h : place.log.Resembles log') :
    Step.Matches (Session.SameBut [duplicatedId]) some
      ((ofPolicy policy naming).untilDuplicates place)
      ((ofPolicy policy naming).untilDuplicates (place.within log')) := by
  have issueId : Step.Matches (Session.SameBut [duplicatedId]) some
      ((ofPolicy policy naming).issueIdStep place)
      ((ofPolicy policy naming).issueIdStep (place.within log')) := by
    have set : (place.within log').changeSet = place.changeSet := rfl
    simp only [issueIdStep, Check.issueId, set, SetPlace.issue_within h.physical]
    split
    · exact Step.matches_nothing
    · rw [setIssues_eq_checked]
      exact matches_checked rfl fun s s' hs => ⟨hs, rfl⟩
  have path : Step.Matches (Session.SameBut [duplicatedId]) some
      ((ofPolicy policy naming).setCheckStep place .logicalPath)
      ((ofPolicy policy naming).setCheckStep (place.within log') .logicalPath) :=
    matches_setCheckStep_within h (by decide)
  simp only [untilDuplicates, List.cons_append, Step.all_cons, Step.all_append]
  exact issueId.andThen (Step.Matches.andThen Step.matches_nothing
    (path.andThen Step.matches_nothing))

end Audit

/-- The report on a change set that is declared already tells the file that declared it first. -/
theorem Check.duplicatedSet_eq_iff {place : SetPlace} {log' : Changelog}
    (h : log'.physicalFilePath = place.log.physicalFilePath) {memory memory' : Memory} :
    (duplicatedSet (place.within log') memory').1 = (duplicatedSet place memory).1 ↔
      memory'.declarers.get? (setKey (place.within log')) =
        memory.declarers.get? (setKey place) := by
  have issue := SetPlace.issue_within h
  have set : (place.within log').changeSet = place.changeSet := rfl
  have physical : (place.within log').log.physicalFilePath = place.log.physicalFilePath := h
  unfold duplicatedSet
  rcases hfirst : memory.declarers.get? (setKey place) with _ | first <;>
    rcases hfirst' : memory'.declarers.get? (setKey (place.within log')) with _ | first'
  · simp
  · simp
  · simp
  · simp only [issue, set, physical, List.cons.injEq, and_true, Option.some.injEq]
    constructor
    · intro same
      have cause := congrArg Issue.cause same
      simp only [Issue.ofSet, Issue.ofChangelog] at cause
      split at cause <;> split at cause <;> simp_all
    · rintro rfl
      rfl

/-- The items judge the same thing in changelogs that resemble one another. -/
inductive Item.Resembles : Item → Item → Prop
  | set {place : SetPlace} {log' : Changelog} (h : place.log.Resembles log') :
    Resembles (.set place) (.set (place.within log'))
  | change {place : ChangePlace} {log' : Changelog} (h : place.log.Resembles log') :
    Resembles (.change place) (.change (place.within log'))

namespace Item

/-- The item in another changelog. -/
def within (log' : Changelog) : Item → Item
  | .set place => .set (place.within log')
  | .change place => .change (place.within log')

theorem resembles_within {log' : Changelog} {x : Item} (h : x.place.log.Resembles log') :
    x.Resembles (x.within log') := by
  cases x with
  | set place => exact .set h
  | change place => exact .change h

theorem resembles_refl (x : Item) : x.Resembles x := by
  have same := resembles_within (Changelog.resembles_refl x.place.log)
  cases x <;> exact same

theorem sets_within (log' : Changelog) (x : Item) :
    (x.within log').sets = x.sets.map (·.within log') := by
  cases x <;> rfl

end Item

namespace Audit

variable {policy : Policy} {naming : Naming} {log' : Changelog} {xs xs' : List Item}

/-- What the check of declared change sets finds is not shown, and what it remembers is its own. -/
theorem matches_duplicatedStep (place place' : SetPlace) :
    Step.Matches (Session.SameBut [duplicatedId]) (Option.guard (·.check ≠ duplicatedId))
      ((ofPolicy policy naming).setCheckStep place .duplicatedSet)
      ((ofPolicy policy naming).setCheckStep place' .duplicatedSet) := by
  have hidden : ∀ issues, (tagged SetCheck.duplicatedSet.name issues).filterMap
      (Option.guard (·.check ≠ duplicatedId)) = [] := by
    intro issues
    rw [List.filterMap_eq_filter, List.filter_eq_nil_iff]
    simp [tagged, duplicatedId]
  have own : SetCheck.duplicatedSet.name ∈ [duplicatedId] := List.mem_cons_self
  rw [setCheckStep_eq_checked, setCheckStep_eq_checked]
  refine matches_checked rfl fun s s' hs => ⟨⟨hs.schema, ?_⟩, ?_⟩
  · have forward := SetCheck.run_alikeBut hs.memory own policy place
    exact (SetCheck.run_alikeBut forward.symm own policy place').symm
  · exact congrArg Except.ok ((hidden _).trans (hidden _).symm)

theorem found_duplicatedStep {place : SetPlace} {s t : Session} {found : List Finding}
    (h : (ofPolicy policy naming).setCheckStep place .duplicatedSet s = (t, .ok found)) :
    found = if policy.ignores duplicatedId then []
      else tagged duplicatedId (Check.duplicatedSet place s.memory).1 := by
  have ignores : (ofPolicy policy naming).policy.ignores SetCheck.duplicatedSet.name =
    policy.ignores duplicatedId := rfl
  rw [setCheckStep_eq_checked, unlessIgnored, ignores] at h
  split at h
  · next hign => rw [if_pos hign, ← Except.ok.inj (Prod.mk.inj h).2]
  · next hign =>
    obtain ⟨-, issues, hissues, rfl⟩ := checked_eq_ok h
    rw [if_neg hign, ← Except.ok.inj hissues]
    rfl

theorem matches_judge_resembling {x x' : Item} (h : x.Resembles x') :
    Step.Matches (Session.SameBut [duplicatedId]) (Option.guard (·.check ≠ duplicatedId))
      ((ofPolicy policy naming).judge x) ((ofPolicy policy naming).judge x') := by
  cases h with
  | @set place log' h =>
    rw [judge, judge, judgeSet_eq_andThen, judgeSet_eq_andThen]
    have sums : Step.Matches (Session.SameBut [duplicatedId]) some
        ((ofPolicy policy naming).setCheckStep place .checkSums)
        ((ofPolicy policy naming).setCheckStep (place.within log') .checkSums) :=
      matches_setCheckStep_within h (by decide)
    exact (matches_untilDuplicates_within h).of_some.andThen
      ((matches_duplicatedStep place _).andThen sums.of_some)
  | change h => exact (matches_judgeChange_within h).of_some

theorem matches_all_resembling (h : List.Forall₂ Item.Resembles xs xs') :
    Step.Matches (Session.SameBut [duplicatedId]) (Option.guard (·.check ≠ duplicatedId))
      (.all (xs.map (ofPolicy policy naming).judge))
      (.all (xs'.map (ofPolicy policy naming).judge)) := by
  induction h with
  | nil => exact Step.matches_nothing
  | cons head _ ih => exact (matches_judge_resembling head).andThen ih

/-- Of a change set the same is found in both sessions exactly if it was declared first by the same
file. -/
theorem judgeSet_eq_iff {place : SetPlace} (h : place.log.Resembles log') {s s' t t' : Session}
    {found found' : List Finding} (hs : s.SameBut [duplicatedId] s')
    (hjudge : (ofPolicy policy naming).judgeSet place s = (t, .ok found))
    (hjudge' : (ofPolicy policy naming).judgeSet (place.within log') s' = (t', .ok found')) :
    found' = found ↔ policy.ignores duplicatedId = true ∨
      s'.memory.declarers.get? (Check.setKey (place.within log')) =
        s.memory.declarers.get? (Check.setKey place) := by
  have reserved : (ofPolicy policy naming).Reserves SetCheck.duplicatedSet.name :=
    ⟨List.forall_mem_nil _, List.forall_mem_nil _⟩
  rw [judgeSet_eq_andThen] at hjudge hjudge'
  obtain ⟨u, x, rest, hfirst, hrest, rfl⟩ := Step.andThen_eq_ok_iff.mp hjudge
  obtain ⟨v, d, y, hdup, hlast, rfl⟩ := Step.andThen_eq_ok_iff.mp hrest
  obtain ⟨u', x', rest', hfirst', hrest', rfl⟩ := Step.andThen_eq_ok_iff.mp hjudge'
  obtain ⟨v', d', y', hdup', hlast', rfl⟩ := Step.andThen_eq_ok_iff.mp hrest'
  -- before and after the check of declared change sets the same is found
  have front : Step.Matches (Session.SameBut [duplicatedId]) some
      ((ofPolicy policy naming).untilDuplicates place)
      ((ofPolicy policy naming).untilDuplicates (place.within log')) :=
    matches_untilDuplicates_within h
  have hu : u.SameBut [duplicatedId] u' := by simpa only [hfirst, hfirst'] using (front s s' hs).1
  have hx : x' = x := by simpa only [hfirst, hfirst', Except.ok.injEq] using front.snd_eq hs
  have middle : Step.Matches (Session.SameBut [duplicatedId])
      (Option.guard (·.check ≠ duplicatedId))
      ((ofPolicy policy naming).setCheckStep place .duplicatedSet)
      ((ofPolicy policy naming).setCheckStep (place.within log') .duplicatedSet) :=
    matches_duplicatedStep place (place.within log')
  have hv : v.SameBut [duplicatedId] v' := by simpa only [hdup, hdup'] using (middle u u' hu).1
  have back : Step.Matches (Session.SameBut [duplicatedId]) some
      ((ofPolicy policy naming).setCheckStep place .checkSums)
      ((ofPolicy policy naming).setCheckStep (place.within log') .checkSums) :=
    matches_setCheckStep_within h (by decide)
  have hy : y' = y := by simpa only [hlast, hlast', Except.ok.injEq] using back.snd_eq hv
  have kept := ((spares_declarers reserved place).1 s u x hfirst).1
  have kept' := ((spares_declarers reserved (place.within log')).1 s' u' x' hfirst').1
  rw [hx, hy, List.append_cancel_left_eq, List.append_cancel_right_eq, ← kept, ← kept',
    ← Check.duplicatedSet_eq_iff h.physical, found_duplicatedStep hdup, found_duplicatedStep hdup']
  by_cases hign : policy.ignores duplicatedId = true
  · simp [hign]
  · have injective : Function.Injective (Finding.mk duplicatedId) :=
      fun i j same => (Finding.mk.inj same).2
    rw [if_neg hign, if_neg hign, tagged, tagged, injective.list_map.eq_iff, or_iff_right hign]

theorem place_log_of_mem_itemsIn {a : Audit} {log : Changelog} :
    ∀ x ∈ a.itemsIn log, x.place.log = log := by
  intro x hx
  obtain ⟨place, hplace, hx⟩ := List.mem_flatMap.mp hx
  obtain ⟨set, -, rfl⟩ := List.mem_map.mp (List.mem_filter.mp hplace).1
  rcases List.mem_cons.mp hx with rfl | hx
  · rfl
  · obtain ⟨p, hp, rfl⟩ := List.mem_map.mp hx
    exact congrArg SetPlace.log (SetPlace.toSetPlace_of_mem_places hp)

/-- Which items are judged in a changelog depends on its change sets alone. -/
theorem itemsIn_within (a : Audit) {log log' : Changelog}
    (h : log'.changeSets = log.changeSets) :
    a.itemsIn log' = (a.itemsIn log).map (·.within log') := by
  have sets : log'.places.filter (fun place => !a.policy.skips place.changeSet) =
      (log.places.filter fun place => !a.policy.skips place.changeSet).map (·.within log') := by
    simp [Changelog.places, h, List.filter_map, Function.comp_def, SetPlace.within]
  have items : ∀ place : SetPlace,
      (place.within log').items = place.items.map (·.within log') := by
    intro place
    simp only [SetPlace.items, SetPlace.places_within, List.map_cons, List.map_map]
    rfl
  simp only [itemsIn, sets, List.flatMap_map, List.map_flatMap, items]

/-- Sessions find the same at each item exactly if for each change set the same file, if any, declared
it first. -/
theorem accounts_eq_iff (h : List.Forall₂ Item.Resembles xs xs') :
    ∀ {sets sets' : List SetPlace} {s s' t : Session} {found : List Finding},
      s.SameBut [duplicatedId] s' → (ofPolicy policy naming).Declares sets s →
      (ofPolicy policy naming).Declares sets' s' →
      Step.all (xs.map (ofPolicy policy naming).judge) s = (t, .ok found) →
      (((ofPolicy policy naming).accounts xs' s').map (·.2) =
          ((ofPolicy policy naming).accounts xs s).map (·.2) ↔
        policy.ignores duplicatedId = true ∨ earlierFiles sets' (xs'.flatMap Item.sets) =
          earlierFiles sets (xs.flatMap Item.sets)) := by
  have reserved : (ofPolicy policy naming).Reserves SetCheck.duplicatedSet.name :=
    ⟨List.forall_mem_nil _, List.forall_mem_nil _⟩
  induction h with
  | nil => exact fun _ _ _ _ => iff_of_true rfl (.inr rfl)
  | @cons x x' xs xs' head _ ih =>
    intro sets sets' s s' t found hs hsets hsets' hall
    obtain ⟨u, f, g, hjudge, hrest, rfl⟩ := Step.andThen_eq_ok_iff.mp hall
    have matched : Step.Matches (Session.SameBut [duplicatedId])
        (Option.guard (·.check ≠ duplicatedId)) ((ofPolicy policy naming).judge x)
        ((ofPolicy policy naming).judge x') := matches_judge_resembling head
    obtain ⟨hu, same⟩ := matched s s' hs
    obtain ⟨u', f', hjudge'⟩ : ∃ u' f', (ofPolicy policy naming).judge x' s' = (u', .ok f') := by
      rcases hjudge' : (ofPolicy policy naming).judge x' s' with ⟨u', failure | f'⟩
      · rw [hjudge, hjudge'] at same
        cases same
      · exact ⟨u', f', rfl⟩
    rw [hjudge, hjudge'] at hu
    have rest := ih hu (declares_judge reserved hsets hjudge)
      (declares_judge reserved hsets' hjudge') hrest
    simp only [accounts, hjudge, hjudge', List.map_cons, List.cons.injEq, List.flatMap_cons]
    rw [rest]
    cases head with
    | @change place log' h =>
      have judged : Step.Matches (Session.SameBut [duplicatedId]) some
          ((ofPolicy policy naming).judgeChange place)
          ((ofPolicy policy naming).judgeChange (place.within log')) :=
        matches_judgeChange_within h
      have equal : f' = f := by
        have snd := judged.snd_eq hs
        rw [judge] at hjudge hjudge'
        simpa only [hjudge, hjudge', Except.ok.injEq] using snd
      simp [equal, Item.sets]
    | @set place log' h =>
      rw [judgeSet_eq_iff h hs hjudge hjudge', ← or_and_left]
      by_cases hign : policy.ignores duplicatedId = true
      · simp [hign]
      · have tried : policy.ignores duplicatedId = false := Bool.eq_false_iff.mpr hign
        rw [hsets tried, hsets' tried]
        simp only [Item.sets, List.singleton_append, earlierFiles, List.cons.injEq]

end Audit

end MigrationAudit
