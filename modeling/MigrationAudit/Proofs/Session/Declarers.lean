import MigrationAudit.Proofs.Session.Duplicates

/-!
# Declared change sets

A session remembers, for every logical path and identifier, the file that was first to declare a
change set under them.  So what it remembers after some items of its agenda is what one looks up in
the change sets among them (`Audit.declares_judge`).
-/

namespace MigrationAudit

/-! ## The first file -/

/-- The file of the first of the sets that goes by the key. -/
def firstFile? (sets : List SetPlace) (key : Option String × String) : Option String :=
  (sets.find? fun place => Check.setKey place = key).map (·.log.physicalFilePath)

theorem firstFile?_cons (place : SetPlace) (sets : List SetPlace) (key : Option String × String) :
    firstFile? (place :: sets) key =
      if Check.setKey place = key then some place.log.physicalFilePath else firstFile? sets key := by
  unfold firstFile?
  rw [List.find?_cons]
  by_cases h : Check.setKey place = key <;> simp [h]

theorem firstFile?_append (sets more : List SetPlace) (key : Option String × String) :
    firstFile? (sets ++ more) key = (firstFile? sets key).or (firstFile? more key) := by
  unfold firstFile?
  rw [List.find?_append, Option.map_or]

theorem firstFile?_eq_none_iff {sets : List SetPlace} {key : Option String × String} :
    firstFile? sets key = none ↔ ∀ place ∈ sets, Check.setKey place ≠ key := by
  simp [firstFile?]

/-- For each of the sets the file that declared it first among the sets before it. -/
def earlierFiles : List SetPlace → List SetPlace → List (Option String)
  | _, [] => []
  | before, place :: sets =>
    firstFile? before (Check.setKey place) :: earlierFiles (before ++ [place]) sets

theorem earlierFiles_append : ∀ before xs ys : List SetPlace,
    earlierFiles before (xs ++ ys) = earlierFiles before xs ++ earlierFiles (before ++ xs) ys
  | before, [], ys => by rw [List.append_nil]; rfl
  | before, x :: xs, ys => by
    rw [List.cons_append, earlierFiles, earlierFiles, earlierFiles_append, List.cons_append,
      List.append_assoc]
    rfl

theorem length_earlierFiles (before xs : List SetPlace) :
    (earlierFiles before xs).length = xs.length := by
  induction xs generalizing before with
  | nil => rfl
  | cons x xs ih => rw [earlierFiles, List.length_cons, ih, List.length_cons]

theorem Check.get?_declarers_duplicatedSet (place : SetPlace) (memory : Memory)
    (key : Option String × String) : (duplicatedSet place memory).2.declarers.get? key =
      (memory.declarers.get? key).or (firstFile? [place] key) := by
  unfold duplicatedSet
  by_cases hkey : setKey place = key
  · subst hkey
    cases hfirst : memory.declarers.get? (setKey place) with
    | none => simp [firstFile?_cons]
    | some first => simpa [firstFile?_cons] using hfirst
  · have alone : firstFile? [place] key = none := by simp [firstFile?, hkey]
    rw [alone, Option.or_none]
    cases hfirst : memory.declarers.get? (setKey place) with
    | none => exact Ledger.get?_set_of_ne _ _ (Ne.symm hkey)
    | some first => rfl

/-! ## The agenda -/

/-- The change sets that an item judges as a whole. -/
def Item.sets : Item → List SetPlace
  | .set place => [place]
  | .change _ => []

theorem ChangeCheck.declarers_run (check : ChangeCheck) (policy : Policy) (store : Store)
    (place : ChangePlace) (memory : Memory) :
    (check.run policy store place memory).2.declarers = memory.declarers :=
  (check.alikeBut_run policy store place memory).declarers (by cases check <;> decide)

theorem SetCheck.declarers_run {check : SetCheck} (h : check ≠ .duplicatedSet) (policy : Policy)
    (place : SetPlace) (memory : Memory) :
    (check.run policy place memory).2.declarers = memory.declarers := by
  refine (check.alikeBut_run policy place memory).declarers ?_
  cases check <;> first | exact absurd rfl h | decide

namespace Audit

/-- What is remembered of declared change sets is what is to be looked up in the sets, unless the
check is left out. -/
def Declares (a : Audit) (sets : List SetPlace) (s : Session) : Prop :=
  a.policy.ignores SetCheck.duplicatedSet.name = false →
    ∀ key, s.memory.declarers.get? key = firstFile? sets key

variable {a : Audit}

theorem declares_empty (a : Audit) : a.Declares [] .empty := fun _ _ => rfl

theorem spares_judgeChange_declarers (hname : a.Reserves SetCheck.duplicatedSet.name)
    (place : ChangePlace) :
    Step.Spares Memory.declarers SetCheck.duplicatedSet.name (a.judgeChange place) := by
  refine judgeChange_induction Step.spares_nothing Step.Spares.andThen (spares_replayStep place)
    (fun check hcheck => ?_) fun check => ?_
  · rw [extraChangeStep_eq_checked]
    exact spares_checked (fun _ => rfl) (hname.change check hcheck)
  · exact spares_checked (fun s => check.declarers_run _ _ place s.memory)
      (by cases check <;> decide)

/-- The checks of a change set up to that of declared change sets. -/
def untilDuplicates (a : Audit) (place : SetPlace) : Step :=
  .all (a.issueIdStep place :: a.extraSetChecks.map (a.extraSetStep place) ++
    [a.setCheckStep place .logicalPath])

theorem judgeSet_eq_andThen (a : Audit) (place : SetPlace) : a.judgeSet place =
    (a.untilDuplicates place).andThen ((a.setCheckStep place .duplicatedSet).andThen
      (a.setCheckStep place .checkSums)) := by
  simp only [judgeSet, untilDuplicates, SetCheck.all, Step.all_append, Step.all_cons, List.map_cons,
    List.map_nil, Step.all_nil, Step.andThen_nothing, Step.andThen_assoc]

/-- Only one check of change sets concerns the declared ones. -/
theorem spares_declarers (hname : a.Reserves SetCheck.duplicatedSet.name) (place : SetPlace) :
    Step.Spares Memory.declarers SetCheck.duplicatedSet.name (a.untilDuplicates place) ∧
      Step.Spares Memory.declarers SetCheck.duplicatedSet.name
        (a.setCheckStep place .checkSums) := by
  have others : ∀ check ≠ .duplicatedSet, Step.Spares Memory.declarers
      SetCheck.duplicatedSet.name (a.setCheckStep place check) := by
    intro check hcheck
    rw [setCheckStep_eq_checked]
    refine spares_checked (fun s => SetCheck.declarers_run hcheck _ place s.memory) ?_
    cases check <;> first | exact absurd rfl hcheck | decide
  have issueId : Step.Spares Memory.declarers SetCheck.duplicatedSet.name
      (a.issueIdStep place) :=
    issueIdStep_cases Step.spares_nothing fun _ => spares_setIssues (by decide) _
  have extra : ∀ check ∈ a.extraSetChecks, Step.Spares Memory.declarers
      SetCheck.duplicatedSet.name (a.extraSetStep place check) :=
    fun check hcheck => spares_setIssues (hname.set check hcheck) _
  refine ⟨Step.all_induction Step.spares_nothing Step.Spares.andThen ?_,
    others .checkSums (by decide)⟩
  simp only [List.forall_mem_append, List.forall_mem_cons, List.forall_mem_map]
  exact ⟨⟨issueId, extra⟩, others .logicalPath (by decide), List.forall_mem_nil _⟩

/-- A change set that is judged does to the declared ones what their check does, and what is found
by this check is what it finds. -/
theorem declarers_judgeSet (hname : a.Reserves SetCheck.duplicatedSet.name)
    (hign : a.policy.ignores SetCheck.duplicatedSet.name = false) {place : SetPlace}
    {s t : Session} {found : List Finding} (h : a.judgeSet place s = (t, .ok found)) :
    t.memory.declarers = (Check.duplicatedSet place s.memory).2.declarers ∧
      foundBy SetCheck.duplicatedSet.name found = (Check.duplicatedSet place s.memory).1 := by
  obtain ⟨hfirst, hlast⟩ := spares_declarers hname place
  rw [judgeSet_eq_andThen] at h
  obtain ⟨s', t', issues, hs', hstep, ht, hfound⟩ := hfirst.between hlast h
  rw [setCheckStep_eq_checked, unlessIgnored, hign, if_neg Bool.false_ne_true] at hstep
  obtain ⟨rfl, found, hrun, rfl⟩ := checked_eq_ok hstep
  rw [ht, hfound, foundBy_tagged, ← Except.ok.inj hrun]
  simp only [SetCheck.run]
  rw [Check.duplicatedSet_eq place s'.memory, Check.duplicatedSet_eq place s.memory, hs']
  exact ⟨rfl, rfl⟩

theorem declares_judge (hname : a.Reserves SetCheck.duplicatedSet.name) {sets : List SetPlace}
    {item : Item} {s t : Session} {found : List Finding} (hs : a.Declares sets s)
    (h : a.judge item s = (t, .ok found)) : a.Declares (sets ++ item.sets) t := by
  intro hign key
  cases item with
  | set place =>
    rw [(declarers_judgeSet hname hign h).1, Check.get?_declarers_duplicatedSet, hs hign key,
      Item.sets, firstFile?_append]
  | change place =>
    obtain ⟨kept, -⟩ := spares_judgeChange_declarers hname place s t found h
    rw [kept, Item.sets, List.append_nil]
    exact hs hign key

end Audit

end MigrationAudit
