import Mathlib.Data.Finset.Card
import MigrationAudit.Proofs.Session.Continuing
import MigrationAudit.Proofs.Session.Declarers

/-!
# Change sets declared again

Whatever is judged in a session, and whatever fails in it, the files that it remembers are those
that were first to declare each change set (`Audit.declarers_sessionAfter`).  So a change set is
reported exactly if one was declared before under the same logical path and identifier, and the
report names the file of the first of them.  All but the first under each logical path and
identifier are reported, so their number does not depend on the order of the change sets
(`Audit.redeclared_sets_reported`).
-/

namespace MigrationAudit

/-- What is said of a change set that was first declared in a file. -/
def Cause.redeclared (place : SetPlace) (first : String) : Cause :=
  if first = place.log.physicalFilePath then .duplicatedInFile place.changeSet.id
  else .duplicatedAcrossFiles place.changeSet.id first

theorem Cause.message_redeclared (place : SetPlace) (first : String) :
    (redeclared place first).message = "the changeSet " ++ place.changeSet.id ++
      " is already defined in " ++
        if first = place.log.physicalFilePath then "the same file" else first := by
  unfold redeclared
  split
  · have text : " is already defined in " ++ "the same file" =
      " is already defined in the same file" := by decide
    rw [String.append_assoc, text]
    rfl
  · rfl

theorem Cause.redeclared_eq_duplicatedInFile_iff {place : SetPlace} {first : String} :
    redeclared place first = .duplicatedInFile place.changeSet.id ↔
      first = place.log.physicalFilePath := by
  unfold redeclared
  split <;> simp_all

namespace Check

theorem duplicatedSet_fst (place : SetPlace) (memory : Memory) :
    (duplicatedSet place memory).1 = (memory.declarers.get? (setKey place)).toList.map fun first =>
      Issue.ofSet place (some "id") (.redeclared place first) := by
  unfold duplicatedSet
  cases memory.declarers.get? (setKey place) <;> rfl

theorem toFinset_setKey_append (sets : List SetPlace) (place : SetPlace) :
    ((sets ++ [place]).map setKey).toFinset = insert (setKey place) (sets.map setKey).toFinset := by
  ext key
  simp

theorem mem_toFinset_setKey {sets : List SetPlace} {key : Option String × String} :
    key ∈ (sets.map setKey).toFinset ↔ firstFile? sets key ≠ none := by
  simp [firstFile?_eq_none_iff]

end Check

namespace Audit

variable {a : Audit}

theorem leaves_declarers_judgeChange (place : ChangePlace) :
    (a.judgeChange place).Leaves Memory.declarers :=
  leaves_judgeChange fun check store memory => check.declarers_run a.policy store place memory

theorem reportedAt_change (hname : a.Reserves SetCheck.duplicatedSet.name) (place : ChangePlace)
    (s : Session) : a.reportedAt SetCheck.duplicatedSet.name (.change place) s = [] :=
  reportedAt_of_spares (spares_judgeChange_declarers hname place) s

section Reported

variable (hname : a.Reserves SetCheck.duplicatedSet.name)
  (hign : a.policy.ignores SetCheck.duplicatedSet.name = false)
include hname hign

theorem declarers_sessionAfter (items : List Item) (key : Option String × String) :
    (a.sessionAfter items).memory.declarers.get? key =
      firstFile? (items.flatMap Item.sets) key := by
  induction items using List.reverseRecOn with
  | nil => rfl
  | append_singleton items item ih =>
    rw [sessionAfter_append, List.flatMap_append, List.flatMap_singleton]
    cases item with
    | set place =>
      obtain ⟨t, found, judged⟩ := a.total_judgeSet place (a.sessionAfter items)
      rw [judge, judged, (declarers_judgeSet hname hign judged).1,
        Check.get?_declarers_duplicatedSet, ih, Item.sets, firstFile?_append]
    | change place =>
      rw [judge, leaves_declarers_judgeChange place, ih, Item.sets, List.append_nil]

/-- What is reported at a change set names the file that was first to declare it, if one was. -/
theorem judge_set_sessionAfter (items : List Item) (place : SetPlace) :
    ∃ found, (a.judge (.set place) (a.sessionAfter items)).2 = .ok found ∧
      foundBy SetCheck.duplicatedSet.name found =
        (firstFile? (items.flatMap Item.sets) (Check.setKey place)).toList.map fun first =>
          Issue.ofSet place (some "id") (.redeclared place first) := by
  obtain ⟨t, found, judged⟩ := a.total_judgeSet place (a.sessionAfter items)
  refine ⟨found, by rw [judge, judged], ?_⟩
  rw [(declarers_judgeSet hname hign judged).2, Check.duplicatedSet_fst,
    declarers_sessionAfter hname hign]

/-- Of the change sets under one logical path and identifier all but the first are reported. -/
theorem length_reports_duplicatedSet (items : List Item) :
    (a.reports SetCheck.duplicatedSet.name items).length +
      ((items.flatMap Item.sets).map Check.setKey).toFinset.card =
        (items.flatMap Item.sets).length := by
  induction items using List.reverseRecOn with
  | nil => rfl
  | append_singleton items item ih =>
    rw [reports_append, List.flatMap_append, List.flatMap_singleton, List.length_append]
    cases item with
    | change place =>
      rw [reportedAt_change hname, Item.sets, List.append_nil]
      exact ih
    | set place =>
      obtain ⟨found, judged, reported⟩ := judge_set_sessionAfter hname hign items place
      rw [reportedAt_of_ok judged, reported, Item.sets, Check.toFinset_setKey_append,
        List.length_append, List.length_map, List.length_singleton]
      cases hfirst : firstFile? (items.flatMap Item.sets) (Check.setKey place) with
      | none =>
        have fresh : Check.setKey place ∉ ((items.flatMap Item.sets).map Check.setKey).toFinset :=
          fun known => Check.mem_toFinset_setKey.mp known hfirst
        rw [Finset.card_insert_of_notMem fresh, Option.toList_none, List.length_nil]
        omega
      | some first =>
        have known : Check.setKey place ∈ ((items.flatMap Item.sets).map Check.setKey).toFinset :=
          Check.mem_toFinset_setKey.mpr (by rw [hfirst]; exact Option.some_ne_none first)
        rw [Finset.insert_eq_of_mem known, Option.toList_some, List.length_singleton]
        omega

end Reported

/-- A change set is always judged, and it is reported exactly if one was declared before under the
same logical path and identifier, and then once: as declared again in the same file if the first of
them is in that file, and else by the name of the file that the first of them is in.  In whatever
order change sets are judged, so many are reported as there are change sets beyond the first of each
logical path and identifier; and in a session over changelogs that succeeds, all of these reports
are found. -/
theorem redeclared_sets_reported (hname : a.Reserves SetCheck.duplicatedSet.name)
    (hign : a.policy.ignores SetCheck.duplicatedSet.name = false) :
    (∀ (items : List Item) (place : SetPlace),
      ∃ found, (a.judge (.set place) (a.sessionAfter items)).2 = .ok found ∧
        let reported := foundBy SetCheck.duplicatedSet.name found
        let sets := items.flatMap Item.sets
        (reported ≠ [] ↔ ∃ earlier ∈ sets, Check.setKey earlier = Check.setKey place) ∧
        ∀ first, sets.find? (fun p => Check.setKey p = Check.setKey place) = some first →
          ∃ cause, reported = [Issue.ofSet place (some "id") cause] ∧
            (cause = .duplicatedInFile place.changeSet.id ↔
              first.log.physicalFilePath = place.log.physicalFilePath) ∧
            cause.message = "the changeSet " ++ place.changeSet.id ++ " is already defined in " ++
              if first.log.physicalFilePath = place.log.physicalFilePath then "the same file"
              else first.log.physicalFilePath) ∧
    (∀ items items' : List Item,
      (items'.flatMap Item.sets).Perm (items.flatMap Item.sets) →
        (a.reports SetCheck.duplicatedSet.name items').length +
          ((items.flatMap Item.sets).map Check.setKey).toFinset.card =
            (items.flatMap Item.sets).length) ∧
    ∀ logs s found, a.judgeLogs logs .empty = (s, .ok found) →
      foundBy SetCheck.duplicatedSet.name found =
        a.reports SetCheck.duplicatedSet.name (a.items logs) := by
  refine ⟨fun items place => ?_, fun items items' same => ?_, fun logs s found h => ?_⟩
  · obtain ⟨found, judged, reported⟩ := judge_set_sessionAfter hname hign items place
    refine ⟨found, judged, ?_, fun first hfirst => ⟨.redeclared place first.log.physicalFilePath,
      ?_, Cause.redeclared_eq_duplicatedInFile_iff, Cause.message_redeclared place _⟩⟩
    · rw [reported, ne_eq, List.map_eq_nil_iff, Option.toList_eq_nil_iff, firstFile?_eq_none_iff]
      simp only [not_forall, ne_eq, not_not, exists_prop]
    · rw [reported, firstFile?, hfirst]
      rfl
  · have counted := length_reports_duplicatedSet hname hign items'
    rwa [List.toFinset_eq_of_perm _ _ (same.map Check.setKey), same.length_eq] at counted
  · exact foundBy_judgeLogs h

/-- A change set of the application, in a file. -/
def appSet (file id : String) : SetPlace :=
  ⟨⟨some "app", file, []⟩, ⟨id, some "dev", [], none, [], []⟩⟩

/-- Whichever file declares a change set first, the other one is reported; a change that fails in
between does not matter. -/
theorem redeclared_sets_reported_eitherWay :
    let failing := ChangePlace.alone (.ofTexts .createTable [] [])
    let items : List Item := [.set (appSet "a" "1"), .set (appSet "b" "1"), .change failing,
      .set (appSet "b" "2"), .set (appSet "b" "2")]
    plain.Reserves SetCheck.duplicatedSet.name ∧
      plain.policy.ignores SetCheck.duplicatedSet.name = false ∧
      (plain.reports SetCheck.duplicatedSet.name items).map (fun i => (i.file, i.cause)) =
        [("b", .duplicatedAcrossFiles "1" "a"), ("b", .duplicatedInFile "2")] ∧
      (plain.reports SetCheck.duplicatedSet.name items.reverse).map (fun i => (i.file, i.cause)) =
        [("b", .duplicatedInFile "2"), ("a", .duplicatedAcrossFiles "1" "b")] ∧
      (plain.reports SetCheck.duplicatedSet.name items.reverse).length + 2 = 4 := by
  intro failing items
  have reserved : plain.Reserves SetCheck.duplicatedSet.name :=
    ⟨List.forall_mem_nil _, List.forall_mem_nil _⟩
  have tried : plain.policy.ignores SetCheck.duplicatedSet.name = false := by decide
  obtain ⟨-, counted, -⟩ := redeclared_sets_reported reserved tried
  have same : (items.reverse.flatMap Item.sets).Perm (items.flatMap Item.sets) :=
    (List.reverse_perm items).flatMap_right _
  exact ⟨reserved, tried, by decide +kernel, by decide +kernel, counted items items.reverse same⟩

end Audit

end MigrationAudit
