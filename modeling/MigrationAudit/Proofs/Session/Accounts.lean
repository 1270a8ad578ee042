import MigrationAudit.Proofs.Changelog.Plain
import MigrationAudit.Proofs.Session.Failures

/-!
# Where findings stand

What a session finds is what it finds at each item of its agenda, in the order of the changelogs: at
a change set as a whole and then at its changes (`Audit.accounts`).  What is found at an item names
its place: the file of the changelog and, unless it is the path of the changelog that is wrong, the
identifier and the author of the change set (`Audit.judgeLogs_accounts`).
-/

namespace MigrationAudit

/-! ## What an issue says of its place -/

/-- The issue is one of the changelog and of no change set in it. -/
structure Issue.NamesLog (log : Changelog) (i : Issue) : Prop where
  file : i.file = log.physicalFilePath
  changeSetId : i.changeSetId = none
  changeSetAuthor : i.changeSetAuthor = none

/-- The issue is one of the change set in its changelog. -/
structure Issue.NamesSet (place : SetPlace) (i : Issue) : Prop where
  file : i.file = place.log.physicalFilePath
  changeSetId : i.changeSetId = some place.changeSet.id
  changeSetAuthor : i.changeSetAuthor = place.changeSet.author

theorem Issue.namesLog_ofChangelog (log : Changelog) (field : Option String) (cause : Cause) :
    (ofChangelog log field cause).NamesLog log := ⟨rfl, rfl, rfl⟩

theorem Issue.namesSet_ofSet (place : SetPlace) (field : Option String) (cause : Cause) :
    (ofSet place field cause).NamesSet place := ⟨rfl, rfl, rfl⟩

theorem Issue.namesSet_ofElement (place : ChangePlace) (element : String) (field : Option String)
    (cause : Cause) : (ofElement place element field cause).NamesSet place.toSetPlace :=
  ⟨rfl, rfl, rfl⟩

/-- Rules on nested columns and on their constraints give rise to issues of the change around. -/
theorem Check.issues_of_columnBinding {bounds : ColumnBounds} {place : ChangePlace}
    {c : NestedColumn} {b : Binding} (hb : b ∈ columnBindings bounds place c)
    {issues : List Issue} (h : b.run = .ok issues) : ∀ i ∈ issues,
      i.NamesSet place.toSetPlace ∧ i.element = some place.change.element.name := by
  intro i hi
  obtain ⟨cause, rfl⟩ :=
    Binding.issues_of_run (place?_of_mem_columnBindings bounds place c b hb) h i hi
  exact ⟨Issue.namesSet_ofElement _ _ _ _, rfl⟩

/-- The set around whatever is judged. -/
def Item.place : Item → SetPlace
  | .set place => place
  | .change place => place.toSetPlace

/-- A finding on the logical path names the changelog, any other one the change set as well. -/
def Item.Owns (item : Item) (x : Finding) : Prop :=
  if x.check = SetCheck.logicalPath.name then x.issue.NamesLog item.place.log
  else x.issue.NamesSet item.place

theorem SetCheck.owns_of_mem_run (check : SetCheck) (policy : Policy) (place : SetPlace)
    (memory : Memory) :
    ∀ i ∈ (check.run policy place memory).1, (Item.set place).Owns ⟨check.name, i⟩ := by
  cases check with
  | logicalPath =>
    cases hexpected : policy.expectedPath with
    | none => simp [run, hexpected]
    | some expected =>
      simp only [run, hexpected, Check.logicalPath]
      split
      · exact List.forall_mem_nil _
      · exact List.forall_mem_map.mpr fun cause _ => Issue.namesLog_ofChangelog place.log _ cause
  | duplicatedSet =>
    simp only [run, Check.duplicatedSet]
    split
    · exact List.forall_mem_nil _
    · exact List.forall_mem_singleton.mpr (Issue.namesSet_ofSet place _ _)
  | checkSums => exact List.forall_mem_map.mpr fun sum _ => ⟨rfl, rfl, rfl⟩

/-! ## What a step finds -/

/-- Whatever the step finds has the property. -/
def Step.Finds (P : Finding → Prop) (step : Step) : Prop :=
  ∀ s t found, step s = (t, .ok found) → ∀ x ∈ found, P x

namespace Step

variable {P : Finding → Prop}

theorem finds_nothing : Finds P nothing := by
  intro s t found h
  obtain ⟨-, hfound⟩ := Prod.mk.inj h
  obtain rfl := Except.ok.inj hfound
  exact List.forall_mem_nil _

theorem Finds.andThen {first second : Step} (h : first.Finds P) (h' : second.Finds P) :
    (first.andThen second).Finds P := by
  intro s u found hall
  obtain ⟨t, x, y, hfirst, hsecond, rfl⟩ := andThen_eq_ok_iff.mp hall
  exact List.forall_mem_append.mpr ⟨h s t x hfirst, h' t u y hsecond⟩

end Step

namespace Audit

variable {a : Audit} {P : Finding → Prop}

theorem finds_checked {check : String} {run : Session → Findings × Memory}
    (h : ∀ s issues, (run s).1 = .ok issues → ∀ i ∈ issues, P ⟨check, i⟩) :
    (a.unlessIgnored check (checked check run)).Finds P := by
  refine unlessIgnored_cases Step.finds_nothing fun s t found hstep => ?_
  obtain ⟨-, issues, hrun, rfl⟩ := checked_eq_ok hstep
  exact List.forall_mem_map.mpr (h s issues hrun)

theorem finds_judgeSet (policy : Policy) (naming : Naming) (place : SetPlace) :
    ((ofPolicy policy naming).judgeSet place).Finds (Item.set place).Owns := by
  refine judgeSet_induction Step.finds_nothing Step.Finds.andThen (fun pattern => ?_)
    (List.forall_mem_nil _) fun check => ?_
  · rw [setIssues_eq_checked]
    refine finds_checked fun s issues h => ?_
    obtain rfl := Except.ok.inj h
    simp only [Check.issueId, List.forall_mem_append, List.forall_mem_map]
    exact ⟨fun _ _ => Issue.namesSet_ofSet place _ _, fun _ _ => Issue.namesSet_ofSet place _ _⟩
  · rw [setCheckStep_eq_checked]
    refine finds_checked fun s issues h => ?_
    obtain rfl := Except.ok.inj h
    exact check.owns_of_mem_run policy place s.memory

theorem finds_judgeChange (policy : Policy) (naming : Naming) (place : ChangePlace) :
    ((ofPolicy policy naming).judgeChange place).Finds fun x => ∃ check : ChangeCheck,
      x.check = check.name ∧ ∃ field cause, x.issue = Issue.ofChange place field cause ∨
        check.citesColumns = true ∧ x.issue = Check.columnIssue place field cause := by
  have replay : ∀ P, ((ofPolicy policy naming).replayStep place).Finds P := by
    intro P s t found h
    obtain ⟨-, -, rfl⟩ := (ofPolicy policy naming).replayStep_eq_ok_iff.mp h
    exact List.forall_mem_nil _
  refine judgeChange_induction Step.finds_nothing Step.Finds.andThen (replay _)
    (List.forall_mem_nil _) fun check => ?_
  exact finds_checked fun s issues h i hi => ⟨check, rfl, ChangeCheck.issues_of_run h i hi⟩

/-! ## Accounts -/

/-- What is found at each item of an agenda, as far as the session gets. -/
def accounts (a : Audit) : List Item → Session → List (Item × List Finding)
  | [], _ => []
  | item :: items, s =>
    match a.judge item s with
    | (_, .error _) => []
    | (t, .ok found) => (item, found) :: a.accounts items t

theorem accounts_of_ok {items : List Item} {s t : Session} {found : List Finding}
    (h : Step.all (items.map a.judge) s = (t, .ok found)) :
    (a.accounts items s).map (·.1) = items ∧ found = (a.accounts items s).flatMap (·.2) := by
  induction items generalizing s found with
  | nil =>
    obtain ⟨-, hfound⟩ := Prod.mk.inj h
    obtain rfl := Except.ok.inj hfound
    exact ⟨rfl, rfl⟩
  | cons item items ih =>
    obtain ⟨u, x, y, hjudge, hrest, rfl⟩ := Step.andThen_eq_ok_iff.mp h
    obtain ⟨same, rfl⟩ := ih hrest
    simp only [accounts, hjudge, List.map_cons, List.flatMap_cons, same, and_self]

/-- What is accounted for is what was found where the item was judged. -/
theorem judge_of_mem_accounts {items : List Item} {s : Session} {account : Item × List Finding}
    (h : account ∈ a.accounts items s) : ∃ u v, a.judge account.1 u = (v, .ok account.2) := by
  induction items generalizing s with
  | nil => cases h
  | cons item items ih =>
    unfold accounts at h
    split at h
    · cases h
    · next t found hjudge =>
      rcases List.mem_cons.mp h with rfl | h
      · exact ⟨s, t, hjudge⟩
      · exact ih h

/-- In a session that succeeds, what is found is what is found at one item after the other.  At each
item every finding names the file of the changelog and the identifier and the author of the change
set, but for findings on the logical path, which name the file alone.  With a change every finding is
one of its element, but for checks that cite nested columns by themselves; rules that are tried on
nested columns and their constraints give rise to issues of the element that they are nested in. -/
theorem judgeLogs_accounts (policy : Policy) (naming : Naming) {logs : List Changelog}
    {s t : Session} {found : List Finding}
    (h : (ofPolicy policy naming).judgeLogs logs s = (t, .ok found)) :
    let a := ofPolicy policy naming
    let accounts := a.accounts (a.items logs) s
    accounts.map (·.1) = a.items logs ∧ found = accounts.flatMap (·.2) ∧
      (∀ account ∈ accounts, ∀ x ∈ account.2,
        if x.check = SetCheck.logicalPath.name then x.issue.NamesLog account.1.place.log
        else x.issue.NamesSet account.1.place) ∧
      (∀ place found, (.change place, found) ∈ accounts → ∀ x ∈ found, ∃ check : ChangeCheck,
        x.check = check.name ∧ (x.issue.element = some place.change.element.name ∨
          check.citesColumns = true ∧ x.issue.element = some "column")) ∧
      ∀ bounds place c, ∀ b ∈ Check.columnBindings bounds place c, ∀ issues, b.run = .ok issues →
        ∀ i ∈ issues, i.NamesSet place.toSetPlace ∧
          i.element = some place.change.element.name := by
  intro a accounts
  rw [judgeLogs_eq_all] at h
  obtain ⟨same, concatenated⟩ := accounts_of_ok h
  have changes : ∀ place found, (.change place, found) ∈ accounts → ∀ x ∈ found,
      ∃ check : ChangeCheck, x.check = check.name ∧ ∃ field cause,
        x.issue = Issue.ofChange place field cause ∨
          check.citesColumns = true ∧ x.issue = Check.columnIssue place field cause := by
    intro place found hmem
    obtain ⟨u, v, hjudge⟩ := judge_of_mem_accounts hmem
    exact finds_judgeChange policy naming place u v found hjudge
  refine ⟨same, concatenated, ?_, ?_, ?_⟩
  · rintro ⟨item, found⟩ hmem x hx
    cases item with
    | set place =>
      obtain ⟨u, v, hjudge⟩ := judge_of_mem_accounts hmem
      exact finds_judgeSet policy naming place u v found hjudge x hx
    | change place =>
      obtain ⟨check, hcheck, field, cause, hissue⟩ := changes place found hmem x hx
      have names : check.name ≠ SetCheck.logicalPath.name := by cases check <;> decide
      rw [if_neg (hcheck ▸ names)]
      rcases hissue with hissue | ⟨-, hissue⟩ <;> rw [hissue]
      · exact Issue.namesSet_ofElement place _ _ _
      · exact Issue.namesSet_ofElement place _ _ _
  · intro place found hmem x hx
    obtain ⟨check, hcheck, field, cause, hissue⟩ := changes place found hmem x hx
    refine ⟨check, hcheck, ?_⟩
    rcases hissue with hissue | ⟨hcites, hissue⟩
    · exact .inl (hissue ▸ rfl)
    · exact .inr ⟨hcites, hissue ▸ rfl⟩
  · exact fun bounds place c b hb issues hrun => Check.issues_of_columnBinding hb hrun

/-- A policy that expects the logical path of an artifact. -/
def artifactPolicy : Policy := { Policy.plain with expectedPath := some (.artifact "app") }

/-- A changelog under a path of its own, with a set that lets any content pass and a column whose
name is not in lower case. -/
def strayLog : Changelog := ⟨some "elsewhere.xml", "db/f.xml",
  [⟨"1", some "dev", ["1:any"], none, [],
    [.ofTexts .createTable [(.tableName, "t")] [.ofType "V" "INTEGER"]]⟩]⟩

theorem judgeLogs_accounts_stray :
    let a := ofPolicy artifactPolicy fun _ => ""
    let accounts := a.accounts (a.items [strayLog]) .empty
    (accounts.map fun account => account.2.map (·.check)) =
        [["filePath", "checksum"], ["columns"]] ∧
      (a.judgeLogs [strayLog] .empty).2 = .ok (accounts.flatMap (·.2)) ∧
      ∀ account ∈ accounts, ∀ x ∈ account.2,
        if x.check = SetCheck.logicalPath.name then x.issue.NamesLog account.1.place.log
        else x.issue.NamesSet account.1.place := by
  intro a accounts
  have checks : (accounts.map fun account => account.2.map (·.check)) =
      [["filePath", "checksum"], ["columns"]] := by decide +kernel
  have succeeds : (a.judgeLogs [strayLog] .empty).2 = .ok (accounts.flatMap (·.2)) := by
    decide +kernel
  obtain ⟨-, -, named, -⟩ := judgeLogs_accounts artifactPolicy (fun _ => "")
    (Step.eq_mk_of_snd succeeds)
  exact ⟨checks, succeeds, named⟩

end Audit

end MigrationAudit
