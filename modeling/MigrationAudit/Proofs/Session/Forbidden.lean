import MigrationAudit.Proofs.Changelog.Carried
import MigrationAudit.Proofs.Session.Duplicates

/-!
# Attributes that are not permitted

Three checks go by one name and report attributes that a change may not have, each from a list of
its own.  What they report of a change together is every attribute that has a value, as many times
as the lists that concern the element name it (`Audit.forbids_judgeChange`).  For a change that is
read from a record this is once, with two exceptions: the attributes that two of the lists name are
reported twice, and one that the element of the record does not have is never reported
(`Audit.forbidden_reported_once_iff`).
-/

namespace MigrationAudit

namespace Check

/-- The attributes that a change of the element may not have. -/
def forbidden (e : Element) : List Attribute :=
  nonPortableAttributes ++
    (if e = .alterSequence then sequenceAlterationAttributes else []) ++
    if e = .dropAllForeignKeyConstraints then baseTableLocationAttributes else []

def forbiddenIssue (place : ChangePlace) (b : Attribute) : Issue :=
  Issue.ofChange place (some b.label) (.notPermitted b.label)

/-- What is reported of attributes that are not permitted. -/
def reported (place : ChangePlace) (attributes : List Attribute) : List Issue :=
  (attributes.filter fun b => (place.change.value? b).isSome).map (forbiddenIssue place)

variable {place : ChangePlace} {b : Attribute}

theorem reported_append (place : ChangePlace) (bs bs' : List Attribute) :
    reported place (bs ++ bs') = reported place bs ++ reported place bs' := by
  simp [reported]

theorem notPermitted_labels (place : ChangePlace) (attributes : List Attribute) :
    notPermitted (labels attributes) place = .ok (reported place attributes) := by
  rw [notPermitted, onFields, labels, List.map_map]
  refine Binding.runAll_each fun b _ => ?_
  have value : Context.value (.ofSubject (.change place) b.label) =
      .ok ((place.change.value? b).map AttributeValue.toText) := place.change.lookup_label b
  cases hb : place.change.value? b with
  | none =>
    rw [hb] at value
    exact Binding.run_eq_nil_iff.mpr ⟨none, value, rfl⟩
  | some v =>
    rw [hb] at value
    exact Binding.run_of_broken rfl value rfl

/-- Only the location of a base table is forbidden twice, where all its foreign keys are dropped. -/
theorem count_forbidden {e : Element} : ∀ b ∈ forbidden e, (forbidden e).count b =
    if e = .dropAllForeignKeyConstraints ∧ b ∈ baseTableLocationAttributes then 2 else 1 := by
  cases e <;> decide

theorem field_forbiddenIssue_iff {b' : Attribute} :
    (forbiddenIssue place b').field = some b.label ↔ b' = b := by
  constructor
  · intro h
    exact Attribute.label_injective (Option.some.inj h)
  · rintro rfl
    rfl

theorem filter_reported (place : ChangePlace) (b : Attribute) (attributes : List Attribute) :
    (reported place attributes).filter (fun i => i.field = some b.label) =
      List.replicate (if (place.change.value? b).isSome then attributes.count b else 0)
        (forbiddenIssue place b) := by
  have same : (fun i : Issue => decide (i.field = some b.label)) ∘ forbiddenIssue place =
      fun b' => b' == b := by
    funext b'
    rw [Bool.eq_iff_iff, Function.comp, decide_eq_true_iff, field_forbiddenIssue_iff, beq_iff_eq]
  have alike : (attributes.filter fun b' => b' == b && (place.change.value? b').isSome) =
      attributes.filter fun b' => b' == b && (place.change.value? b).isSome := by
    refine List.filter_congr fun b' _ => ?_
    rcases eq_or_ne b' b with rfl | hb
    · rfl
    · rw [beq_false_of_ne hb, Bool.false_and, Bool.false_and]
  rw [reported, List.filter_map, same, List.filter_filter, alike]
  by_cases hb : (place.change.value? b).isSome = true
  · simp only [hb, Bool.and_true, if_true, List.filter_beq, List.map_replicate]
  · simp [hb]

end Check

open Check

/-! ## Steps -/

/-- Where it succeeds, the step reports these attributes of a change by the name of the checks, as
far as they have values. -/
def Step.Forbids (place : ChangePlace) (attributes : List Attribute) (step : Step) : Prop :=
  ∀ s t found, step s = (t, .ok found) →
    foundBy ChangeCheck.nonPortable.name found = reported place attributes

namespace Step

variable {place : ChangePlace}

theorem forbids_nothing (place : ChangePlace) : nothing.Forbids place [] := by
  intro s t found h
  obtain rfl := Except.ok.inj (Prod.mk.inj h).2
  rfl

theorem Forbids.andThen {first second : Step} {bs bs' : List Attribute}
    (h : first.Forbids place bs) (h' : second.Forbids place bs') :
    (first.andThen second).Forbids place (bs ++ bs') := by
  intro s u all hall
  obtain ⟨t, found, more, hfirst, hsecond, rfl⟩ := andThen_eq_ok_iff.mp hall
  rw [foundBy_append, h s t found hfirst, h' t u more hsecond, reported_append]

/-- A step that finds nothing by the name of the checks forbids nothing. -/
theorem Spares.forbids {step : Step} (h : Spares (fun _ => ()) ChangeCheck.nonPortable.name step) :
    step.Forbids place [] :=
  fun s t found hfound => (h s t found hfound).2

theorem forbids_all_map {α : Type} {step : α → Step} {bs : α → List Attribute} :
    ∀ xs : List α, (∀ x ∈ xs, (step x).Forbids place (bs x)) →
      (all (xs.map step)).Forbids place (xs.flatMap bs)
  | [], _ => forbids_nothing place
  | x :: xs, h =>
    (h x List.mem_cons_self).andThen
      (forbids_all_map xs fun y hy => h y (List.mem_cons_of_mem x hy))

end Step

namespace ChangeCheck

/-- The attributes that a check does not permit. -/
def forbids : ChangeCheck → List Attribute
  | .nonPortable => nonPortableAttributes
  | .sequenceAlteration => sequenceAlterationAttributes
  | .baseTableLocation => baseTableLocationAttributes
  | _ => []

theorem run_of_name {check : ChangeCheck} (h : check.name = nonPortable.name) (policy : Policy)
    (store : Store) (place : ChangePlace) (memory : Memory) :
    (check.run policy store place memory).1 = .ok (reported place check.forbids) := by
  cases check with
  | nonPortable | sequenceAlteration | baseTableLocation => exact notPermitted_labels place _
  | _ => exact absurd h (by decide)

theorem forbids_of_name_ne {check : ChangeCheck} (h : check.name ≠ nonPortable.name) :
    check.forbids = [] := by
  cases check with
  | nonPortable | sequenceAlteration | baseTableLocation => exact absurd rfl h
  | _ => rfl

theorem flatMap_forbids (e : Element) :
    (all.flatMap fun check => if check.appliesTo e then check.forbids else []) = forbidden e := by
  cases e <;> rfl

end ChangeCheck

namespace Audit

variable {a : Audit} {place : ChangePlace}

theorem forbids_changeCheckStep (hign : a.policy.ignores ChangeCheck.nonPortable.name = false)
    (place : ChangePlace) (check : ChangeCheck) : (a.changeCheckStep place check).Forbids place
      (if check.appliesTo place.change.element then check.forbids else []) := by
  rw [changeCheckStep_eq_checked]
  split
  · by_cases hname : check.name = ChangeCheck.nonPortable.name
    · rw [unlessIgnored, hname, hign, if_neg Bool.false_ne_true]
      intro s t found h
      obtain ⟨-, issues, hrun, rfl⟩ := checked_eq_ok h
      rw [check.run_of_name hname] at hrun
      rw [foundBy_tagged, Except.ok.inj hrun]
    · rw [check.forbids_of_name_ne hname]
      exact (spares_checked (fun _ => rfl) hname).forbids
  · exact Step.forbids_nothing place

theorem forbids_extraChangeSteps (hname : a.Reserves ChangeCheck.nonPortable.name)
    (place : ChangePlace) :
    (Step.all (a.extraChangeChecks.map (a.extraChangeStep place))).Forbids place [] := by
  have none : (a.extraChangeChecks.flatMap fun _ => ([] : List Attribute)) = [] :=
    List.flatMap_eq_nil_iff.mpr fun _ _ => rfl
  rw [← none]
  refine Step.forbids_all_map _ fun check hcheck => ?_
  rw [extraChangeStep_eq_checked]
  exact (spares_checked (fun _ => rfl) (hname.change check hcheck)).forbids

theorem forbids_judgeChange (hname : a.Reserves ChangeCheck.nonPortable.name)
    (hign : a.policy.ignores ChangeCheck.nonPortable.name = false) (place : ChangePlace) :
    (a.judgeChange place).Forbids place (forbidden place.change.element) := by
  have replay : (a.replayStep place).Forbids place [] := (spares_replayStep place).forbids
  have checks := Step.forbids_all_map ChangeCheck.all fun check _ =>
    forbids_changeCheckStep hign place check
  rw [ChangeCheck.flatMap_forbids] at checks
  have all := replay.andThen ((forbids_extraChangeSteps hname place).andThen checks)
  rwa [← Step.all_append, ← Step.all_cons] at all

/-- An alteration of a sequence has no start value, whatever its record carries. -/
theorem value?_startValue_of_alterSequence {c : Change} (h : c.element = .alterSequence) :
    c.value? .startValue = none := by
  refine Change.value?_eq_none_of_not_mem ?_
  rw [h]
  decide

/-- What else an alteration of a sequence may not change it has, if its record carries it. -/
theorem value?_incrementBy_of_carries {depth : Nat} {j : Json} {c : Change}
    (hread : Change.read depth j = .ok c) (h : c.element = .alterSequence)
    (hcarries : j.Carries (RecordKind.change c.element).members Attribute.incrementBy.label) :
    (c.value? .incrementBy).isSome = true := by
  refine (Change.carries_iff hread ?_).mp hcarries
  rw [h]
  decide

/-- Forbidden attributes of a change that is read from a record are reported as often as the lists
for its element name them, if the change has them.  That is once for each that the change has or
that an alteration of a sequence carries, and not at all for others, unless the alteration carries a
start value or the base table whose foreign keys are all dropped has a location. -/
theorem forbidden_reported_once_iff {depth : Nat} {j : Json} {s t : Session} {found : List Finding}
    {b : Attribute} (hname : a.Reserves ChangeCheck.nonPortable.name)
    (hign : a.policy.ignores ChangeCheck.nonPortable.name = false)
    (hread : Change.read depth j = .ok place.change)
    (judged : a.judgeChange place s = (t, .ok found)) (hb : b ∈ forbidden place.change.element) :
    let element := place.change.element
    let issues := (foundBy ChangeCheck.nonPortable.name found).filter (·.field = some b.label)
    let carried := j.Carries (RecordKind.change element).members b.label
    let present := (place.change.value? b).isSome = true ∨
      element = .alterSequence ∧ b ∈ sequenceAlterationAttributes ∧ carried
    let unseen := element = .alterSequence ∧ b = .startValue ∧ carried
    let repeated := element = .dropAllForeignKeyConstraints ∧ b ∈ baseTableLocationAttributes ∧
      (place.change.value? b).isSome = true
    (issues = List.replicate
      (if (place.change.value? b).isSome then
        if element = .dropAllForeignKeyConstraints ∧ b ∈ baseTableLocationAttributes then 2 else 1
      else 0) (forbiddenIssue place b)) ∧
    ((present → issues = [forbiddenIssue place b]) ∧ (¬ present → issues = []) ↔
      ¬ unseen ∧ ¬ repeated) := by
  intro element issues carried present unseen repeated
  have counted : issues = List.replicate
      (if (place.change.value? b).isSome then
        if element = .dropAllForeignKeyConstraints ∧ b ∈ baseTableLocationAttributes then 2 else 1
      else 0) (forbiddenIssue place b) := by
    rw [← count_forbidden b hb, ← filter_reported]
    exact congrArg _ (forbids_judgeChange hname hign place s t found judged)
  refine ⟨counted, ?_⟩
  rw [counted]
  by_cases hv : (place.change.value? b).isSome = true
  · have hpresent : present := .inl hv
    have hseen : ¬ unseen := by
      rintro ⟨helement, rfl, -⟩
      rw [value?_startValue_of_alterSequence helement] at hv
      cases hv
    by_cases hlists : element = .dropAllForeignKeyConstraints ∧ b ∈ baseTableLocationAttributes
    · have hrepeated : repeated := ⟨hlists.1, hlists.2, hv⟩
      simp [hv, hlists, hpresent, hrepeated, List.replicate]
    · have hrepeated : ¬ repeated := fun h => hlists ⟨h.1, h.2.1⟩
      simp [hv, hlists, hpresent, hrepeated, hseen]
  · have hrepeated : ¬ repeated := fun h => hv h.2.2
    -- what a record carries without a value for it in the change can only be a start value
    have hpresent : present ↔ unseen := by
      refine ⟨fun h => ?_, fun h => .inr ⟨h.1, h.2.1 ▸ by decide, h.2.2⟩⟩
      obtain ⟨helement, hmem, hcarried⟩ := h.resolve_left hv
      rcases List.mem_pair.mp hmem with rfl | rfl
      · exact ⟨helement, rfl, hcarried⟩
      · exact absurd (value?_incrementBy_of_carries hread helement hcarried) hv
    simp [hv, hrepeated, hpresent]

/-- A record that alters an attribute of a sequence. -/
def alteration (b : Attribute) : Json :=
  .record [("change", .text "alterSequence"), ("sequenceName", .text "s"), (b.label, .text "5")]

/-- The increment of a sequence is reported. -/
theorem forbidden_reported_once_increment :
    let place := ChangePlace.alone
      (.ofTexts .alterSequence [(.sequenceName, "s"), (.incrementBy, "5")] [])
    ∃ s found, Change.read 0 (alteration .incrementBy) = .ok place.change ∧
      plain.judgeChange place .empty = (s, .ok found) ∧
      (foundBy "notPermitted" found).filter (·.field = some "incrementBy") =
        [forbiddenIssue place .incrementBy] := by
  intro place
  have hread : Change.read 0 (alteration .incrementBy) = .ok place.change := by rfl
  have judged : plain.judgeChange place .empty =
      (.empty, .ok [⟨"notPermitted", forbiddenIssue place .incrementBy⟩]) := by decide +kernel
  have once := (forbidden_reported_once_iff (a := plain) (b := .incrementBy) ⟨nofun, nofun⟩ rfl
    hread judged (by decide)).2
  refine ⟨_, _, hread, judged, (once.mpr ⟨?_, ?_⟩).1 (.inl rfl)⟩
  · rintro ⟨-, h, -⟩
    cases h
  · rintro ⟨h, -⟩
    cases h

/-- A start value that an alteration carries is not reported, and the catalog of a base table whose
foreign keys are dropped is reported twice. -/
theorem forbidden_unseen_and_repeated :
    let altered := ChangePlace.alone (.ofTexts .alterSequence [(.sequenceName, "s")] [])
    let dropped := ChangePlace.alone (.ofTexts .dropAllForeignKeyConstraints
      [(.baseTableName, "t"), (.baseTableCatalogName, "c")] [])
    let finding : Finding := ⟨"notPermitted", forbiddenIssue dropped .baseTableCatalogName⟩
    Change.read 0 (alteration .startValue) = .ok altered.change ∧
      (alteration .startValue).Carries (RecordKind.change .alterSequence).members "startValue" ∧
      plain.judgeChange altered .empty = (.empty, .ok []) ∧
      Change.read 0 (.record [("change", .text "dropAllForeignKeyConstraints"),
        ("baseTableName", .text "t"), ("baseTableCatalogName", .text "c")]) =
          .ok dropped.change ∧
      plain.judgeChange dropped .empty = (.empty, .ok [finding, finding]) := by
  intro altered dropped finding
  refine ⟨by rfl, ⟨.text "5", ?_, nofun⟩, by decide +kernel, by rfl, by decide +kernel⟩
  exact .tail _ (.tail _ (.head _))

end Audit

end MigrationAudit
