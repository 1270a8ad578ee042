import MigrationAudit.Proofs.Check.IndexHistory
import MigrationAudit.Proofs.Schema.Absence
import MigrationAudit.Proofs.Session.Ignoring
import MigrationAudit.Proofs.Session.Insertion

/-!
# Reported indexes

What a session finds of duplicated indexes is what their check finds with the judged changes, one
after the other (`Audit.Passes.duplicates`), for nothing else touches the indexes that a session
remembers.  So the index that a report names stands: it is the last one accepted under its name, on
the same key, and has not been dropped since.  If no name in the two changes holds a hyphen, it is
on the same columns of the same table (`Audit.duplicates_of_judgeLogs`).  But of drops only those of
indexes count, so the table or a column may have been dropped meanwhile
(`Audit.misreports_after_drop`).
-/

namespace MigrationAudit

/-! ## What a check finds in a session -/

/-- The issues found by the check of a name. -/
def foundBy (check : String) (found : List Finding) : List Issue :=
  (found.filter fun x => x.check = check).map Finding.issue

theorem foundBy_append (check : String) (found more : List Finding) :
    foundBy check (found ++ more) = foundBy check found ++ foundBy check more := by
  simp [foundBy]

theorem foundBy_tagged (check : String) (issues : List Issue) :
    foundBy check (Audit.tagged check issues) = issues := by
  simp [foundBy, Audit.tagged, List.filter_map, Function.comp_def]

theorem foundBy_tagged_of_ne {check other : String} (h : other ≠ check) (issues : List Issue) :
    foundBy check (Audit.tagged other issues) = [] := by
  simp [foundBy, Audit.tagged, List.filter_map, Function.comp_def, h]

namespace Step

/-- Where it succeeds, the step leaves a part of what is remembered as it is, and finds nothing by
the name of a check. -/
def Spares {α : Type} (part : Memory → α) (check : String) (step : Step) : Prop :=
  ∀ s t found, step s = (t, .ok found) → part t.memory = part s.memory ∧ foundBy check found = []

variable {α : Type} {part : Memory → α} {check : String}

theorem spares_nothing : Spares part check nothing := by
  intro s t found h
  obtain ⟨rfl, hfound⟩ := Prod.mk.inj h
  obtain rfl := Except.ok.inj hfound
  exact ⟨rfl, rfl⟩

theorem Spares.andThen {first second : Step} (h : Spares part check first)
    (h' : Spares part check second) : Spares part check (first.andThen second) := by
  intro s u all hall
  obtain ⟨t, found, more, hfirst, hsecond, rfl⟩ := andThen_eq_ok_iff.mp hall
  obtain ⟨ht, hfound⟩ := h s t found hfirst
  obtain ⟨hu, hmore⟩ := h' t u more hsecond
  exact ⟨hu.trans ht, by rw [foundBy_append, hfound, hmore, List.append_nil]⟩

/-- Of a step between two that spare a part of what is remembered, all that concerns this part and
the check is to be seen from outside. -/
theorem Spares.between {first middle last : Step} (hfirst : Spares part check first)
    (hlast : Spares part check last) {s u : Session} {all : List Finding}
    (h : first.andThen (middle.andThen last) s = (u, .ok all)) :
    ∃ s' t found, part s'.memory = part s.memory ∧ middle s' = (t, .ok found) ∧
      part u.memory = part t.memory ∧ foundBy check all = foundBy check found := by
  obtain ⟨s', x, y, hx, hrest, rfl⟩ := andThen_eq_ok_iff.mp h
  obtain ⟨t, found, z, hmiddle, hz, rfl⟩ := andThen_eq_ok_iff.mp hrest
  obtain ⟨hs', foundx⟩ := hfirst s s' x hx
  obtain ⟨hu, foundz⟩ := hlast t u z hz
  refine ⟨s', t, found, hs', hmiddle, hu, ?_⟩
  rw [foundBy_append, foundBy_append, foundx, foundz, List.nil_append, List.append_nil]

end Step

namespace ChangeCheck

/-- No other check of changes goes by the name of this one or touches the part of what is remembered
that is its own. -/
structure Owns {α : Type} (check : ChangeCheck) (part : Memory → α) : Prop where
  name : ∀ other ≠ check, other.name ≠ check.name
  run : ∀ other ≠ check, ∀ policy store place memory,
    part (other.run policy store place memory).2 = part memory

theorem owns_duplicatedIndex : Owns .duplicatedIndex Memory.indexes where
  name other h := by cases other <;> first | exact absurd rfl h | decide
  run other h policy store place memory := by
    refine (other.alikeBut_run policy store place memory).indexes ?_
    cases other <;> first | exact absurd rfl h | decide

/-- A check comes once among the checks. -/
theorem exists_all_eq (check : ChangeCheck) :
    ∃ before after, all = before ++ check :: after ∧ check ∉ before ++ after := by
  obtain ⟨before, after, h⟩ := List.append_of_mem check.mem_all
  have nodup : all.Nodup := by decide
  rw [h, List.nodup_middle] at nodup
  exact ⟨before, after, h, (List.nodup_cons.mp nodup).1⟩

end ChangeCheck

/-- The checks of changes and of change sets share no name. -/
theorem ChangeCheck.name_ne_of_set (check : ChangeCheck) (c : SetCheck) : check.name ≠ c.name := by
  cases check <;> cases c <;> decide

theorem ChangeCheck.name_ne_issueId (check : ChangeCheck) : check.name ≠ Audit.issueIdCheck := by
  cases check <;> decide

theorem SetCheck.indexes_run (check : SetCheck) (policy : Policy) (place : SetPlace)
    (memory : Memory) : (check.run policy place memory).2.indexes = memory.indexes :=
  (check.alikeBut_run policy place memory).indexes (by cases check <;> decide)

/-! ## Runs of changes -/

namespace Check

/-- What is found of duplicated indexes with changes that are judged one after the other. -/
def duplicatesFrom (memory : Memory) : List ChangePlace → List Issue
  | [] => []
  | place :: run =>
    (duplicatedIndex place memory).1 ++ duplicatesFrom (duplicatedIndex place memory).2 run

def duplicatesIn (run : List ChangePlace) : List Issue := duplicatesFrom .empty run

theorem duplicatesFrom_append (place : ChangePlace) : ∀ (run : List ChangePlace) (memory : Memory),
    duplicatesFrom memory (run ++ [place]) =
      duplicatesFrom memory run ++ (duplicatedIndex place (rememberedFrom memory run)).1
  | [], memory => by simp [duplicatesFrom, rememberedFrom]
  | first :: run, memory => by
    rw [List.cons_append, duplicatesFrom, duplicatesFrom_append place run, duplicatesFrom,
      List.append_assoc]
    rfl

theorem duplicatesIn_append (run : List ChangePlace) (place : ChangePlace) :
    duplicatesIn (run ++ [place]) =
      duplicatesIn run ++ (duplicatedIndex place (rememberedAfter run)).1 :=
  duplicatesFrom_append place run .empty

/-- Of what is remembered the check sees and changes the known indexes alone. -/
theorem duplicatedIndex_congr {memory memory' : Memory} (h : memory.indexes = memory'.indexes)
    (place : ChangePlace) :
    (duplicatedIndex place memory).1 = (duplicatedIndex place memory').1 ∧
      (duplicatedIndex place memory).2.indexes = (duplicatedIndex place memory').2.indexes := by
  rw [duplicatedIndex_eq place memory, duplicatedIndex_eq place memory', h]
  exact ⟨rfl, rfl⟩

theorem duplicatedIndex_of_not_appliesTo {place : ChangePlace}
    (h : ChangeCheck.duplicatedIndex.appliesTo place.change.element = false) (memory : Memory) :
    duplicatedIndex place memory = ([], memory) := by
  have other : ∀ e, ChangeCheck.duplicatedIndex.appliesTo e = true → place.change.element ≠ e := by
    rintro e he rfl
    rw [he] at h
    cases h
  have creates := other .createIndex (by decide)
  have drops := other .dropIndex (by decide)
  simp only [duplicatedIndex]

end Check

/-! ## Sessions -/

namespace Audit

/-- No further check goes by the name. -/
structure Reserves (a : Audit) (check : String) : Prop where
  set : ∀ c ∈ a.extraSetChecks, c.name ≠ check
  change : ∀ c ∈ a.extraChangeChecks, c.name ≠ check

variable {a : Audit}

section Steps

variable {α : Type} {part : Memory → α} {check : String}

theorem spares_checked {name : String} {run : Session → Findings × Memory}
    (hpart : ∀ s, part (run s).2 = part s.memory) (hname : name ≠ check) :
    Step.Spares part check (a.unlessIgnored name (checked name run)) := by
  refine unlessIgnored_cases Step.spares_nothing fun s t found h => ?_
  obtain ⟨rfl, issues, -, rfl⟩ := checked_eq_ok h
  exact ⟨hpart s, foundBy_tagged_of_ne hname issues⟩

theorem spares_setIssues {name : String} (hname : name ≠ check) (issues : List Issue) :
    Step.Spares part check (a.unlessIgnored name (setIssues name issues)) := by
  rw [setIssues_eq_checked]
  exact spares_checked (fun _ => rfl) hname

theorem spares_replayStep (place : ChangePlace) :
    Step.Spares part check (a.replayStep place) := by
  intro s t found h
  obtain ⟨-, rfl, rfl⟩ := a.replayStep_eq_ok_iff.mp h
  exact ⟨rfl, rfl⟩

end Steps

theorem spares_judgeSet {α : Type} {part : Memory → α} {check : ChangeCheck}
    (hpart : ∀ (c : SetCheck) policy place memory, part (c.run policy place memory).2 = part memory)
    (hname : a.Reserves check.name) (place : SetPlace) :
    Step.Spares part check.name (a.judgeSet place) := by
  refine judgeSet_induction Step.spares_nothing Step.Spares.andThen (fun pattern => ?_)
    (fun c hc => ?_) fun c => ?_
  · exact spares_setIssues check.name_ne_issueId.symm _
  · exact spares_setIssues (hname.set c hc) _
  · rw [setCheckStep_eq_checked]
    exact spares_checked (fun s => hpart c _ place s.memory) (check.name_ne_of_set c).symm

/-- Among the steps that judge a change, only one concerns the part of what is remembered that a
check owns. -/
theorem judgeChange_eq_spares {α : Type} {part : Memory → α} {check : ChangeCheck}
    (howns : check.Owns part) (hname : a.Reserves check.name) (place : ChangePlace) :
    ∃ first last, a.judgeChange place =
        first.andThen ((a.changeCheckStep place check).andThen last) ∧
      Step.Spares part check.name first ∧ Step.Spares part check.name last := by
  obtain ⟨before, after, hall, hout⟩ := check.exists_all_eq
  have others : ∀ other ∈ before ++ after,
      Step.Spares part check.name (a.changeCheckStep place other) := by
    intro other hother
    have hne : other ≠ check := fun heq => hout (heq ▸ hother)
    exact changeCheckStep_cases Step.spares_nothing fun _ =>
      (spares_checked (fun s => howns.run other hne _ _ place s.memory) (howns.name other hne))
  have extra : ∀ c ∈ a.extraChangeChecks,
      Step.Spares part check.name (a.extraChangeStep place c) := by
    intro c hc
    rw [extraChangeStep_eq_checked]
    exact spares_checked (fun _ => rfl) (hname.change c hc)
  obtain ⟨hbefore, hafter⟩ := List.forall_mem_append.mp others
  refine ⟨.all (a.replayStep place :: (a.extraChangeChecks.map (a.extraChangeStep place) ++
    before.map (a.changeCheckStep place))), .all (after.map (a.changeCheckStep place)), ?_, ?_, ?_⟩
  · rw [judgeChange, hall, List.map_append, List.map_cons, ← Step.all_cons, ← Step.all_append,
      List.cons_append, List.cons_append, List.append_assoc]
  · refine Step.all_induction Step.spares_nothing Step.Spares.andThen ?_
    simp only [List.forall_mem_append, List.forall_mem_cons, List.forall_mem_map]
    exact ⟨spares_replayStep place, extra, hbefore⟩
  · exact Step.all_induction Step.spares_nothing Step.Spares.andThen
      (List.forall_mem_map.mpr hafter)

/-- Where a change is judged, a check that is not left out does all that is to be seen of the part
that it owns. -/
theorem judgeChange_of_owns {α : Type} {part : Memory → α} {check : ChangeCheck}
    (howns : check.Owns part) (hname : a.Reserves check.name)
    (hign : a.policy.ignores check.name = false) {place : ChangePlace}
    (happlies : check.appliesTo place.change.element = true) {s t : Session}
    {found : List Finding} (h : a.judgeChange place s = (t, .ok found)) :
    ∃ store memory issues, part memory = part s.memory ∧
      (check.run a.policy store place memory).1 = .ok issues ∧
      part t.memory = part (check.run a.policy store place memory).2 ∧
      foundBy check.name found = issues := by
  obtain ⟨first, last, steps, hfirst, hlast⟩ := judgeChange_eq_spares howns hname place
  rw [steps] at h
  obtain ⟨s', t', issues, hs', hstep, ht, hfound⟩ := hfirst.between hlast h
  rw [changeCheckStep_eq_checked, if_pos happlies, unlessIgnored, hign,
    if_neg Bool.false_ne_true] at hstep
  obtain ⟨rfl, found, hrun, rfl⟩ := checked_eq_ok hstep
  exact ⟨s'.schema.store, s'.memory, found, hs', hrun, ht, by rw [hfound, foundBy_tagged]⟩

/-- A check that is left out or does not apply leaves the part that it owns as it is. -/
theorem spares_judgeChange_of_owns {α : Type} {part : Memory → α} {check : ChangeCheck}
    (howns : check.Owns part) (hname : a.Reserves check.name) {place : ChangePlace}
    (h : a.changeCheckStep place check = .nothing) :
    Step.Spares part check.name (a.judgeChange place) := by
  obtain ⟨first, last, steps, hfirst, hlast⟩ := judgeChange_eq_spares howns hname place
  rw [steps, h, Step.nothing_andThen]
  exact hfirst.andThen hlast

theorem spares_judgeChange_of_ignored (hname : a.Reserves ChangeCheck.duplicatedIndex.name)
    (hign : a.policy.ignores ChangeCheck.duplicatedIndex.name = true) (place : ChangePlace) :
    Step.Spares Memory.indexes ChangeCheck.duplicatedIndex.name (a.judgeChange place) := by
  refine spares_judgeChange_of_owns ChangeCheck.owns_duplicatedIndex hname ?_
  rw [changeCheckStep, unlessIgnored, if_pos hign, ite_self]

/-- A change that is judged does to the known indexes what their check does, and what is found by
this check is what it finds. -/
theorem indexes_judgeChange (hname : a.Reserves ChangeCheck.duplicatedIndex.name)
    (hign : a.policy.ignores ChangeCheck.duplicatedIndex.name = false) {place : ChangePlace}
    {s t : Session} {found : List Finding} (h : a.judgeChange place s = (t, .ok found))
    {memory : Memory} (hs : s.memory.indexes = memory.indexes) :
    t.memory.indexes = (Check.duplicatedIndex place memory).2.indexes ∧
      foundBy ChangeCheck.duplicatedIndex.name found = (Check.duplicatedIndex place memory).1 := by
  cases happlies : ChangeCheck.duplicatedIndex.appliesTo place.change.element with
  | true =>
    obtain ⟨store, memory', issues, hs', hrun, ht, hfound⟩ :=
      judgeChange_of_owns ChangeCheck.owns_duplicatedIndex hname hign happlies h
    obtain ⟨hissues, hindexes⟩ := Check.duplicatedIndex_congr (hs'.trans hs) place
    rw [ht, hfound, ← hissues, ← hindexes]
    exact ⟨rfl, (Except.ok.inj hrun).symm⟩
  | false =>
    have nothing : a.changeCheckStep place .duplicatedIndex = .nothing := by
      rw [changeCheckStep, happlies, if_neg Bool.false_ne_true]
    obtain ⟨ht, hfound⟩ :=
      spares_judgeChange_of_owns ChangeCheck.owns_duplicatedIndex hname nothing s t found h
    rw [ht, hfound, hs, Check.duplicatedIndex_of_not_appliesTo happlies]
    exact ⟨rfl, rfl⟩

namespace Passes

variable {judged : List ChangePlace} {s : Session} {found : List Finding}

/-- A session remembers the indexes that are known after the judged changes, and has found what
their check finds with these changes. -/
theorem duplicates (hname : a.Reserves ChangeCheck.duplicatedIndex.name)
    (hign : a.policy.ignores ChangeCheck.duplicatedIndex.name = false)
    (h : a.Passes judged s found) :
    s.memory.indexes = (Check.rememberedAfter judged).indexes ∧
      foundBy ChangeCheck.duplicatedIndex.name found = Check.duplicatesIn judged := by
  induction h with
  | start => exact ⟨rfl, rfl⟩
  | @set judged s t found more place before step ih =>
    obtain ⟨hindexes, hfound⟩ := spares_judgeSet SetCheck.indexes_run hname place s t more step
    rw [foundBy_append, hfound, hindexes, List.append_nil]
    exact ih
  | @change judged s t found more place before step ih =>
    obtain ⟨hindexes, hfound⟩ := indexes_judgeChange hname hign step ih.1
    rw [foundBy_append, Check.duplicatesIn_append, Check.rememberedAfter_append, ih.2, hfound]
    exact ⟨hindexes, rfl⟩

theorem foundBy_of_ignored (hname : a.Reserves ChangeCheck.duplicatedIndex.name)
    (hign : a.policy.ignores ChangeCheck.duplicatedIndex.name = true)
    (h : a.Passes judged s found) : foundBy ChangeCheck.duplicatedIndex.name found = [] := by
  induction h with
  | start => rfl
  | @set judged s t found more place before step ih =>
    rw [foundBy_append, ih, (spares_judgeSet SetCheck.indexes_run hname place s t more step).2, List.append_nil]
  | @change judged s t found more place before step ih =>
    have spared := spares_judgeChange_of_ignored hname hign place s t more step
    rw [foundBy_append, ih, spared.2, List.append_nil]

end Passes

end Audit

/-! ## The index that a report names -/

namespace Change

/-- No name of the table or of a column holds a hyphen. -/
def Hyphenless (c : Change) : Prop :=
  (∀ t ∈ c.text? .tableName, '-' ∉ t.toList) ∧ ∀ n ∈ c.columnNames, '-' ∉ n.toList

instance (c : Change) : Decidable c.Hyphenless := inferInstanceAs (Decidable (_ ∧ _))

/-- The change drops the table of an index or one of its columns. -/
def DropsUnder (c d : Change) : Prop :=
  ∃ t ∈ d.text? .tableName, .dropTable t ∈ c.script.edits ∨
    ∃ n ∈ d.columnNames, .dropColumn t n ∈ c.script.edits

/-- Indexes on one key are on the same columns of the same table, if no name holds a hyphen. -/
theorem indexesAlike_of_indexKey_eq {c d : Change} (hc : c.element = .createIndex)
    (hd : d.element = .createIndex) (hok : c.script.failure = none) (hok' : d.script.failure = none)
    (hh : c.Hyphenless) (hh' : d.Hyphenless) (hkey : Check.indexKey c = Check.indexKey d) :
    c.IndexesAlike d := by
  obtain ⟨t, ht⟩ := exists_of_mandatory hok (a := .tableName) (by rw [hc]; decide)
  obtain ⟨u, hu⟩ := exists_of_mandatory hok' (a := .tableName) (by rw [hd]; decide)
  unfold Check.indexKey at hkey
  rw [ht, hu] at hkey
  obtain ⟨table, columns⟩ := Indexes.eq_of_keyOf_eq (hh.1 t ht) (hh'.1 u hu) hh.2 hh'.2 hkey
  refine ⟨hc, hd, ?_, columns⟩
  rw [ht, hu]
  exact congrArg some table

end Change

namespace Check

variable {run : List ChangePlace} {q : ChangePlace} {issue : Issue}

/-- What is found with a change after a run names an index that stands on its key. -/
theorem exists_stands_of_mem_duplicatedIndex
    (h : issue ∈ (duplicatedIndex q (rememberedAfter run)).1) :
    q.change.element = .createIndex ∧
      ∃ m, issue = duplicateIssue q m ∧ Stands run m (indexKey q.change) := by
  have step := indexStep_duplicatedIndex q (rememberedAfter run)
  generalize (duplicatedIndex q (rememberedAfter run)).1 = found at h step
  generalize (duplicatedIndex q (rememberedAfter run)).2.indexes = known at step
  cases step with
  | reported owner element owned =>
    exact ⟨element, owner, List.mem_singleton.mp h,
      (owner?_rememberedAfter_iff run owner _).mp owned⟩
  | reserved | released | kept => exact absurd h List.not_mem_nil

end Check

namespace Audit

variable {a : Audit} {logs : List Changelog} {s : Session} {found : List Finding}

/-- In a session that succeeds, the check of duplicated indexes finds what it finds with the judged
changes, one after the other.  Whatever it finds with a change, this change creates an index, and
what is found names the last index accepted under its name before: that one is on the same key and
has not been dropped by its name since, and if no name in the two changes holds a hyphen, both
indexes are on the same columns of the same table. -/
theorem duplicates_of_judgeLogs (hname : a.Reserves ChangeCheck.duplicatedIndex.name)
    (h : a.judgeLogs logs .empty = (s, .ok found)) :
    foundBy ChangeCheck.duplicatedIndex.name found =
        (if a.policy.ignores ChangeCheck.duplicatedIndex.name then []
          else Check.duplicatesIn (a.judged logs)) ∧
      ∀ earlier q later, a.judged logs = earlier ++ q :: later →
        ∀ issue ∈ (Check.duplicatedIndex q (Check.rememberedAfter earlier)).1,
          q.change.element = .createIndex ∧ ∃ m before p between,
            issue = Check.duplicateIssue q m ∧ earlier = before ++ p :: between ∧
              Check.Accepted p (Check.rememberedAfter before) ∧ p.change.indexName = m ∧
              Check.KeepsIndex m (Check.rememberedAfter (before ++ [p])) between ∧
              Check.indexKey p.change = Check.indexKey q.change ∧
              (p.change.Hyphenless → q.change.Hyphenless → p.change.IndexesAlike q.change) := by
  have passes := passes_judgeLogs h
  refine ⟨?_, fun earlier q later hrun issue hissue => ?_⟩
  · split
    · next hign => exact passes.foundBy_of_ignored hname hign
    · next hign => exact (passes.duplicates hname (by simpa using hign)).2
  · obtain ⟨hq, m, rfl, before, p, between, rfl, hp, rfl, hkey, hkept⟩ :=
      Check.exists_stands_of_mem_duplicatedIndex hissue
    refine ⟨hq, _, before, p, between, rfl, rfl, hp, rfl, hkept, hkey, fun hh hh' => ?_⟩
    have ok := passes.failure_eq_none
    exact Change.indexesAlike_of_indexKey_eq hp.1 hq (ok p (by simp [hrun])) (ok q (by simp [hrun]))
      hh hh' hkey

/-- An index that is created again after it has been dropped, and once more under another name. -/
theorem duplicates_of_judgeLogs_recreated :
    let create := Change.ofTexts .createTable [(.tableName, "t")]
      [.ofType "a" "INTEGER", .ofType "b" "INTEGER"]
    let drop := Change.ofTexts .dropIndex [(.tableName, "t"), (.indexName, "i")] []
    let logs := [Changelog.ofChanges [create, .ofIndex "i" "t" ["a", "b"], drop,
      .ofIndex "i" "t" ["b", "a"], .ofIndex "j" "t" ["a", "b"]]]
    ∃ s found earlier q m before p between, plain.judgeLogs logs .empty = (s, .ok found) ∧
      plain.judged logs = earlier ++ [q] ∧
      foundBy ChangeCheck.duplicatedIndex.name found = [Check.duplicateIssue q m] ∧
      earlier = before ++ p :: between ∧ p.change.IndexesAlike q.change ∧
      Check.KeepsIndex m (Check.rememberedAfter (before ++ [p])) between := by
  intro create drop logs
  let run := plain.judged logs
  have succeeds : (plain.judgeLogs logs .empty).2 =
      .ok (tagged ChangeCheck.duplicatedIndex.name (Check.duplicatesIn run)) := by decide +kernel
  have reported : Check.duplicatesIn run = [Check.duplicateIssue run[4] "i"] := by decide +kernel
  have last : (Check.duplicatedIndex run[4] (Check.rememberedAfter (run.take 4))).1 =
      [Check.duplicateIssue run[4] "i"] := by decide +kernel
  have hyphenless : ∀ r ∈ run, r.change.Hyphenless := by decide +kernel
  have reserved : plain.Reserves ChangeCheck.duplicatedIndex.name :=
    ⟨List.forall_mem_nil _, List.forall_mem_nil _⟩
  obtain ⟨-, refers⟩ := duplicates_of_judgeLogs reserved (Step.eq_mk_of_snd succeeds)
  obtain ⟨-, m, before, p, between, hm, hsplit, -, -, kept, -, alike⟩ :=
    refers (run.take 4) run[4] [] rfl _ (by rw [last]; exact List.mem_singleton_self _)
  have hp : p ∈ run := by
    have earlier : p ∈ run.take 4 := by simp [hsplit]
    exact List.mem_of_mem_take earlier
  have found := (foundBy_tagged ChangeCheck.duplicatedIndex.name _).trans reported
  exact ⟨_, _, run.take 4, run[4], m, before, p, between, Step.eq_mk_of_snd succeeds, rfl,
    found.trans (congrArg ([·]) hm), hsplit,
    alike (hyphenless p hp) (hyphenless _ (List.getElem_mem _)), kept⟩

end Audit

/-! ## Reports after drops -/

namespace Check

variable {run before between : List ChangePlace} {p q : ChangePlace}

/-- What is reported after the run is so: an index accepted under the name is on the same columns of
the same table, and since then neither it nor the table nor any of the columns has been dropped. -/
def Genuine (run : List ChangePlace) (q : ChangePlace) (m : String) : Prop :=
  ∃ before p between, run = before ++ p :: between ∧ Accepted p (rememberedAfter before) ∧
    p.change.indexName = m ∧ p.change.IndexesAlike q.change ∧
      ∀ r ∈ between, ¬ r.change.DropsIndex m ∧ ¬ r.change.DropsUnder q.change

theorem not_genuine_of_single (hrun : run = before ++ p :: between)
    (single : ∀ r ∈ before ++ between, r.change.element ≠ .createIndex)
    (h : p.change.IndexesAlike q.change → ∃ r ∈ between, r.change.DropsUnder q.change)
    (m : String) : ¬ Genuine run q m := by
  rintro ⟨before', p', between', hrun', accepted, -, alike, kept⟩
  rw [hrun] at hrun'
  obtain ⟨rfl, rfl⟩ : p = p' ∧ between = between' := by
    -- another place for `p'` is among the changes that create no index
    rcases List.append_eq_append_iff.mp hrun' with
      ⟨_ | ⟨r, rs⟩, -, hsplit⟩ | ⟨_ | ⟨r, rs⟩, hbefore, hsplit⟩
    · exact List.cons.inj hsplit
    · obtain ⟨rfl, rfl⟩ := List.cons.inj hsplit
      exact absurd accepted.1 (single p' (by simp))
    · obtain ⟨rfl, rfl⟩ := List.cons.inj hsplit
      exact ⟨rfl, rfl⟩
    · obtain ⟨rfl, rfl⟩ := List.cons.inj hsplit
      exact absurd accepted.1 (single p' (by simp [hbefore]))
  obtain ⟨r, hr, hdrops⟩ := h alike
  exact (kept r hr).2 hdrops

end Check

namespace Audit

/-- All that the session finds is that the last change creates an index over again, and that is not
so. -/
def Misreports (changes : List Change) : Prop :=
  ∃ earlier q m, plain.judged [.ofChanges changes] = earlier ++ [q] ∧
    (plain.judgeLogs [.ofChanges changes] .empty).2 =
      .ok (tagged ChangeCheck.duplicatedIndex.name [Check.duplicateIssue q m]) ∧
    ¬ Check.Genuine earlier q m

theorem misreports_of_single (before between : List Change) (m : String) {c d : Change}
    (found : (plain.judgeLogs [.ofChanges (before ++ c :: (between ++ [d]))] .empty).2 =
      .ok (tagged ChangeCheck.duplicatedIndex.name [Check.duplicateIssue (.alone d) m]))
    (single : ∀ r ∈ before ++ between, r.element ≠ .createIndex)
    (h : c.IndexesAlike d → ∃ r ∈ between, r.DropsUnder d) :
    Misreports (before ++ c :: (between ++ [d])) := by
  let place : SetPlace := ⟨.ofChanges (before ++ c :: (between ++ [d])),
    .ofChanges (before ++ c :: (between ++ [d]))⟩
  let first := place.placesWithin [] before (c :: (between ++ [d]))
  let rest := place.placesWithin (before ++ [c]) between [d]
  have judged : plain.judged [.ofChanges (before ++ c :: (between ++ [d]))] =
      (first ++ ⟨place, before, c, between ++ [d]⟩ :: rest) ++
        [⟨place, before ++ [c] ++ between, d, []⟩] := by
    have places : plain.judged [.ofChanges (before ++ c :: (between ++ [d]))] = place.places := by
      have kept : plain.policy.skips place.changeSet = false := rfl
      simp [Audit.judged, judgedIn, Changelog.places, Changelog.ofChanges, kept, place]
    have split := place.placesWithin_append [] before (c :: (between ++ [d])) []
    have split' := place.placesWithin_append (before ++ [c]) between [d] []
    rw [places, SetPlace.places, SetPlace.placesAfter_eq_placesWithin]
    change place.placesWithin [] (before ++ c :: (between ++ [d])) [] = _
    simpa only [List.append_nil, List.nil_append, SetPlace.placesWithin, split', List.append_assoc,
      List.cons_append] using split
  have others : ∀ r ∈ first ++ rest, r.change ∈ before ++ between := by
    intro r hr
    have hmem := List.mem_map_of_mem (f := (·.change)) hr
    rwa [List.map_append, SetPlace.placesWithin_map_change,
      SetPlace.placesWithin_map_change] at hmem
  refine ⟨_, _, m, judged, found,
    Check.not_genuine_of_single rfl (fun r hr => ?_) (fun alike => ?_) m⟩
  · exact single r.change (others r hr)
  · obtain ⟨r, hr, hdrops⟩ := h alike
    rw [← place.placesWithin_map_change (before ++ [c]) between [d]] at hr
    obtain ⟨p, hp, rfl⟩ := List.mem_map.mp hr
    exact ⟨p, hp, hdrops⟩

/-- The index that a report names may be gone with its table or with a column; and where names hold
hyphens, it may be on another table altogether. -/
theorem misreports_after_drop :
    let create (table : String) := Change.ofTexts .createTable [(.tableName, table)]
      [.ofType "a" "INTEGER", .ofType "b" "INTEGER"]
    Misreports [create "t", .ofIndex "i" "t" ["a"], .ofTexts .dropTable [(.tableName, "t")] [],
        create "t", .ofIndex "j" "t" ["a"]] ∧
      Misreports [create "t", .ofIndex "i" "t" ["a"],
        .ofTexts .dropColumn [(.tableName, "t")] [.ofName "a"],
        .ofTexts .addColumn [(.tableName, "t")] [.ofType "a" "INTEGER"],
        .ofIndex "j" "t" ["a"]] ∧
      Misreports [create "t", create "t-a", .ofIndex "i" "t" ["a", "b"],
        .ofIndex "j" "t-a" ["b"]] := by
  intro create
  refine ⟨?_, ?_, ?_⟩
  · refine misreports_of_single [create "t"]
      [.ofTexts .dropTable [(.tableName, "t")] [], create "t"] "i" (by decide +kernel) (by decide)
      fun _ => ?_
    exact ⟨_, List.mem_cons_self, "t", by decide, .inl (by decide)⟩
  · refine misreports_of_single [create "t"]
      [.ofTexts .dropColumn [(.tableName, "t")] [.ofName "a"],
        .ofTexts .addColumn [(.tableName, "t")] [.ofType "a" "INTEGER"]]
      "i" (by decide +kernel) (by decide) fun _ => ?_
    exact ⟨_, List.mem_cons_self, "t", by decide, .inr ⟨"a", by decide, by decide⟩⟩
  · refine misreports_of_single [create "t", create "t-a"] [] "i" (by decide +kernel) (by decide)
      fun alike => ?_
    exact absurd alike.2.2.1 (by decide)

end Audit

end MigrationAudit
