import MigrationAudit.Proofs.Session.Resembling

/-!
# Empty logical paths

A changelog without a logical path and one with an empty logical path go by the same path and have
the same wrong with it, but their change sets are declared under different keys.  So to the check of
declared change sets alone it makes a difference which of the two a changelog has, and it makes none
exactly where no other change set of an identifier is declared under either key, or where the same
file declared it first under both (`Interchangeable`, `Audit.judgeLogs_emptied`).
-/

namespace MigrationAudit

/-- The changelog with an empty logical path. -/
def Changelog.withEmptyPath (log : Changelog) : Changelog := { log with logicalFilePath := some "" }

theorem Changelog.resembles_withEmptyPath {log : Changelog} (h : log.logicalFilePath = none) :
    log.Resembles log.withEmptyPath where
  physical := rfl
  path := by
    rw [filePath, filePath, h]
    rfl
  cause expected := by simp [Check.logicalPathCause?, withEmptyPath, h]

/-! ## Who declared a change set first -/

/-- Between the change sets before and after it, it makes no difference whether a set of the
identifier is declared under no logical path or under the empty one. -/
structure Interchangeable (before after : List SetPlace) (id : String) : Prop where
  earlier : firstFile? before (some "", id) = firstFile? before (none, id)
  later : firstFile? before (none, id) = none → ∀ place ∈ after,
    Check.setKey place ≠ (none, id) ∧ Check.setKey place ≠ (some "", id)

section Emptied

variable {log : Changelog} {own : List SetPlace}

theorem firstFile?_emptied (hlog : log.logicalFilePath = none) (hown : ∀ p ∈ own, p.log = log)
    (id : String) : firstFile? (own.map (·.within log.withEmptyPath)) (some "", id) =
      firstFile? own (none, id) := by
  induction own with
  | nil => rfl
  | cons p own ih =>
    obtain ⟨hp, hrest⟩ := List.forall_mem_cons.mp hown
    have key : Check.setKey p = (none, p.changeSet.id) := by rw [Check.setKey, hp, hlog]
    have key' : Check.setKey (p.within log.withEmptyPath) = (some "", p.changeSet.id) := rfl
    have file : (p.within log.withEmptyPath).log.physicalFilePath = p.log.physicalFilePath := by
      rw [hp]
      rfl
    rw [List.map_cons, firstFile?_cons, firstFile?_cons, key, key', file, ih hrest]
    simp only [Prod.mk.injEq, true_and]

theorem firstFile?_own_eq_none (hlog : log.logicalFilePath = none) (hown : ∀ p ∈ own, p.log = log)
    (id path : String) : firstFile? own (some path, id) = none := by
  refine firstFile?_eq_none_iff.mpr fun p hp heq => ?_
  rw [Check.setKey, hown p hp, hlog] at heq
  cases heq

theorem firstFile?_emptied_eq_none {key : Option String × String} (hkey : key.1 ≠ some "") :
    firstFile? (own.map (·.within log.withEmptyPath)) key = none := by
  refine firstFile?_eq_none_iff.mpr (List.forall_mem_map.mpr fun p _ heq => hkey ?_)
  rw [← heq]
  rfl

theorem firstFile?_own_isSome (hlog : log.logicalFilePath = none) (hown : ∀ p ∈ own, p.log = log)
    {p : SetPlace} (hp : p ∈ own) : firstFile? own (none, p.changeSet.id) ≠ none := by
  intro h
  refine firstFile?_eq_none_iff.mp h p hp ?_
  rw [Check.setKey, hown p hp, hlog]

/-- The sets themselves are declared alike under no path and under the empty one exactly if the same
file declared each of them first. -/
theorem earlierFiles_emptied_iff (hlog : log.logicalFilePath = none) {before : List SetPlace} :
    ∀ {own passed : List SetPlace}, (∀ p ∈ passed ++ own, p.log = log) →
      (∀ p ∈ passed, firstFile? before (some "", p.changeSet.id) =
        firstFile? before (none, p.changeSet.id)) →
      (earlierFiles (before ++ passed.map (·.within log.withEmptyPath))
          (own.map (·.within log.withEmptyPath)) = earlierFiles (before ++ passed) own ↔
        ∀ p ∈ own, firstFile? before (some "", p.changeSet.id) =
          firstFile? before (none, p.changeSet.id))
  | [], _, _, _ => by simp [earlierFiles]
  | p :: own, passed, hown, hpassed => by
    obtain ⟨hlogs, hrest⟩ := List.forall_mem_append.mp hown
    have hp := hrest p List.mem_cons_self
    have key : Check.setKey p = (none, p.changeSet.id) := by rw [Check.setKey, hp, hlog]
    have key' : Check.setKey (p.within log.withEmptyPath) = (some "", p.changeSet.id) := rfl
    have head : firstFile? (before ++ passed.map (·.within log.withEmptyPath))
        (some "", p.changeSet.id) = firstFile? (before ++ passed) (none, p.changeSet.id) ↔
          firstFile? before (some "", p.changeSet.id) =
            firstFile? before (none, p.changeSet.id) := by
      rw [firstFile?_append, firstFile?_append, firstFile?_emptied hlog hlogs]
      cases hfirst : firstFile? passed (none, p.changeSet.id) with
      | none => rw [Option.or_none, Option.or_none]
      | some file =>
        -- a set of the identifier has passed, and so the files before it are the same
        have same : firstFile? before (some "", p.changeSet.id) =
            firstFile? before (none, p.changeSet.id) := by
          by_contra hne
          have absent : firstFile? passed (none, p.changeSet.id) = none := by
            refine firstFile?_eq_none_iff.mpr fun q hq heq => hne ?_
            have id : q.changeSet.id = p.changeSet.id := congrArg Prod.snd heq
            exact id ▸ hpassed q hq
          rw [absent] at hfirst
          cases hfirst
        rw [same]
        exact iff_of_true rfl rfl
    rw [List.map_cons, earlierFiles, earlierFiles, key, key', List.cons.injEq, head,
      List.forall_mem_cons]
    refine and_congr_right fun same => ?_
    have moved : [p.within log.withEmptyPath] = [p].map (·.within log.withEmptyPath) := rfl
    rw [List.append_assoc, List.append_assoc, moved, ← List.map_append]
    refine earlierFiles_emptied_iff hlog (by rwa [List.append_assoc]) ?_
    exact List.forall_mem_append.mpr ⟨hpassed, List.forall_mem_singleton.mpr same⟩

/-- No set of the list is declared under the key if there was none before. -/
def Unclaimed (before own : List SetPlace) (key : Option String × String) : Prop :=
  ∀ p ∈ own, firstFile? before (none, p.changeSet.id) = none →
    key ≠ (none, p.changeSet.id) ∧ key ≠ (some "", p.changeSet.id)

/-- Later on, it makes a difference under which of the two paths the sets were declared exactly for
those who look for one of them and find no earlier set. -/
theorem firstFile?_emptied_iff (hlog : log.logicalFilePath = none) (hown : ∀ p ∈ own, p.log = log)
    {before passed : List SetPlace}
    (hsame : ∀ p ∈ own, firstFile? before (some "", p.changeSet.id) =
      firstFile? before (none, p.changeSet.id))
    (hpassed : ∀ q ∈ passed, Unclaimed before own (Check.setKey q))
    (key : Option String × String) :
    firstFile? (before ++ (own.map (·.within log.withEmptyPath) ++ passed)) key =
        firstFile? (before ++ (own ++ passed)) key ↔ Unclaimed before own key := by
  simp only [firstFile?_append]
  constructor
  · intro same p hp hnone
    have declared := firstFile?_own_isSome hlog hown hp
    have free := fun q hq => hpassed q hq p hp hnone
    constructor
    · rintro rfl
      have absent := firstFile?_eq_none_iff.mpr fun q hq => (free q hq).1
      rw [hnone, absent, firstFile?_emptied_eq_none (by simp)] at same
      exact declared (by simpa using same.symm)
    · rintro rfl
      have absent := firstFile?_eq_none_iff.mpr fun q hq => (free q hq).2
      rw [hsame p hp, hnone, absent, firstFile?_emptied hlog hown,
        firstFile?_own_eq_none hlog hown] at same
      exact declared (by simpa using same)
  · intro free
    obtain ⟨path, id⟩ := key
    cases hbefore : firstFile? before (path, id) with
    | some file => rw [Option.some_or, Option.some_or]
    | none =>
      have undeclared : path = none ∨ path = some "" → firstFile? own (none, id) = none := by
        intro hpath
        refine firstFile?_eq_none_iff.mpr fun p hp heq => ?_
        obtain rfl : p.changeSet.id = id := congrArg Prod.snd heq
        rcases hpath with rfl | rfl
        · exact (free p hp hbefore).1 rfl
        · exact (free p hp (hsame p hp ▸ hbefore)).2 rfl
      have gone : firstFile? (own.map (·.within log.withEmptyPath)) (path, id) =
          firstFile? own (path, id) := by
        rcases path with _ | path
        · rw [firstFile?_emptied_eq_none (by simp), undeclared (.inl rfl)]
        · rw [firstFile?_own_eq_none hlog hown]
          by_cases hpath : path = ""
          · subst hpath
            rw [firstFile?_emptied hlog hown, undeclared (.inr rfl)]
          · exact firstFile?_emptied_eq_none (by simpa using hpath)
      rw [gone]

theorem earlierFiles_after_emptied_iff (hlog : log.logicalFilePath = none)
    (hown : ∀ p ∈ own, p.log = log) {before : List SetPlace}
    (hsame : ∀ p ∈ own, firstFile? before (some "", p.changeSet.id) =
      firstFile? before (none, p.changeSet.id)) :
    ∀ {after passed : List SetPlace}, (∀ q ∈ passed, Unclaimed before own (Check.setKey q)) →
      (earlierFiles (before ++ (own.map (·.within log.withEmptyPath) ++ passed)) after =
          earlierFiles (before ++ (own ++ passed)) after ↔
        ∀ q ∈ after, Unclaimed before own (Check.setKey q))
  | [], _, _ => by simp [earlierFiles]
  | q :: after, passed, hpassed => by
    rw [earlierFiles, earlierFiles, List.cons.injEq, List.forall_mem_cons,
      firstFile?_emptied_iff hlog hown hsame hpassed]
    refine and_congr_right fun hq => ?_
    rw [List.append_assoc, List.append_assoc, List.append_assoc, List.append_assoc]
    refine earlierFiles_after_emptied_iff hlog hown hsame ?_
    exact List.forall_mem_append.mpr ⟨hpassed, List.forall_mem_singleton.mpr hq⟩

theorem earlierFiles_emptied_eq_iff (hlog : log.logicalFilePath = none)
    (hown : ∀ p ∈ own, p.log = log) (before after : List SetPlace) :
    earlierFiles [] (before ++ (own.map (·.within log.withEmptyPath) ++ after)) =
        earlierFiles [] (before ++ (own ++ after)) ↔
      ∀ p ∈ own, Interchangeable before after p.changeSet.id := by
  have lengths : (earlierFiles before (own.map (·.within log.withEmptyPath))).length =
      (earlierFiles before own).length := by
    rw [length_earlierFiles, length_earlierFiles, List.length_map]
  have owned : earlierFiles before (own.map (·.within log.withEmptyPath)) =
      earlierFiles before own ↔ ∀ p ∈ own, firstFile? before (some "", p.changeSet.id) =
        firstFile? before (none, p.changeSet.id) := by
    simpa using earlierFiles_emptied_iff hlog (by simpa using hown) (List.forall_mem_nil _)
  have followed : (∀ p ∈ own, firstFile? before (some "", p.changeSet.id) =
      firstFile? before (none, p.changeSet.id)) →
      (earlierFiles (before ++ own.map (·.within log.withEmptyPath)) after =
          earlierFiles (before ++ own) after ↔
        ∀ q ∈ after, Unclaimed before own (Check.setKey q)) := by
    intro same
    simpa using earlierFiles_after_emptied_iff hlog hown same (List.forall_mem_nil _)
  simp only [earlierFiles_append, List.nil_append, List.append_cancel_left_eq]
  constructor
  · intro h p hp
    obtain ⟨hown, hafter⟩ := List.append_inj h lengths
    have same := owned.mp hown
    exact ⟨same p hp, fun hnone q hq => (followed same).mp hafter q hq p hp hnone⟩
  · intro h
    have same := fun p hp => (h p hp).earlier
    have free := fun q hq p hp hnone => (h p hp).later hnone q hq
    rw [owned.mpr same, (followed same).mpr free]

end Emptied

/-! ## Sessions -/

namespace Audit

variable {policy : Policy} {naming : Naming}

/-- The change sets that a session judges, in their order. -/
def judgedSets (a : Audit) (logs : List Changelog) : List SetPlace :=
  (a.items logs).flatMap Item.sets

theorem items_append_cons (a : Audit) (before after : List Changelog) (log : Changelog) :
    a.items (before ++ log :: after) = a.items before ++ (a.itemsIn log ++ a.items after) := by
  rw [items, List.flatMap_append, List.flatMap_cons]
  rfl

theorem itemsIn_emptied (a : Audit) (log : Changelog) :
    a.itemsIn log.withEmptyPath = (a.itemsIn log).map (·.within log.withEmptyPath) :=
  a.itemsIn_within rfl

theorem items_emptied (a : Audit) {log : Changelog} (hlog : log.logicalFilePath = none)
    (before after : List Changelog) : List.Forall₂ Item.Resembles
      (a.items (before ++ log :: after)) (a.items (before ++ log.withEmptyPath :: after)) := by
  have refl : ∀ logs, List.Forall₂ Item.Resembles (a.items logs) (a.items logs) :=
    fun logs => List.forall₂_same.mpr fun x _ => x.resembles_refl
  have emptied : List.Forall₂ Item.Resembles (a.itemsIn log) (a.itemsIn log.withEmptyPath) := by
    rw [itemsIn_emptied]
    refine List.forall₂_map_right_iff.mpr (List.forall₂_same.mpr fun x hx => ?_)
    refine Item.resembles_within ?_
    rw [place_log_of_mem_itemsIn x hx]
    exact Changelog.resembles_withEmptyPath hlog
  rw [items_append_cons, items_append_cons]
  exact List.rel_append (refl before) (List.rel_append emptied (refl after))

theorem judgedSets_emptied (a : Audit) {log : Changelog} (hlog : log.logicalFilePath = none)
    (before after : List Changelog) :
    earlierFiles [] (a.judgedSets (before ++ log.withEmptyPath :: after)) =
        earlierFiles [] (a.judgedSets (before ++ log :: after)) ↔
      ∀ place ∈ a.judgedSets [log],
        Interchangeable (a.judgedSets before) (a.judgedSets after) place.changeSet.id := by
  have alone : a.judgedSets [log] = (a.itemsIn log).flatMap Item.sets := by
    simp [judgedSets, items]
  have own : ∀ place ∈ a.judgedSets [log], place.log = log := by
    rw [alone]
    intro place hplace
    obtain ⟨x, hx, hplace⟩ := List.mem_flatMap.mp hplace
    cases x with
    | set around =>
      obtain rfl := List.mem_singleton.mp hplace
      exact place_log_of_mem_itemsIn _ hx
    | change around => cases hplace
  have emptied : (a.itemsIn log.withEmptyPath).flatMap Item.sets =
      (a.judgedSets [log]).map (·.within log.withEmptyPath) := by
    simp only [alone, itemsIn_emptied, List.flatMap_map, List.map_flatMap, Item.sets_within]
  have split : ∀ log, a.judgedSets (before ++ log :: after) =
      a.judgedSets before ++ ((a.itemsIn log).flatMap Item.sets ++ a.judgedSets after) := by
    intro log
    rw [judgedSets, items_append_cons, List.flatMap_append, List.flatMap_append]
    rfl
  rw [split, split, emptied, ← alone]
  exact earlierFiles_emptied_eq_iff hlog own _ _

/-- Whether a changelog has no logical path or an empty one makes a difference to the check of
declared change sets alone.  The session ends with the same schema, fails with the same failure, and
finds the same but for this check.  If it succeeds it finds the same at each item exactly if the
check is left out or the identifiers of the changelog are interchangeable, and then its result is
the same. -/
theorem judgeLogs_emptied (policy : Policy) (naming : Naming) {log : Changelog}
    (hlog : log.logicalFilePath = none) (before after : List Changelog) :
    let a := ofPolicy policy naming
    let logs := before ++ log :: after
    let logs' := before ++ log.withEmptyPath :: after
    let r := a.judgeLogs logs .empty
    let r' := a.judgeLogs logs' .empty
    let harmless := policy.ignores SetCheck.duplicatedSet.name = true ∨
      ∀ place ∈ a.judgedSets [log],
        Interchangeable (a.judgedSets before) (a.judgedSets after) place.changeSet.id
    r'.1.schema = r.1.schema ∧
      r'.2.map (List.filter (·.check ≠ SetCheck.duplicatedSet.name)) =
        r.2.map (List.filter (·.check ≠ SetCheck.duplicatedSet.name)) ∧
      (∀ found, r.2 = .ok found → ((a.accounts (a.items logs') .empty).map (·.2) =
        (a.accounts (a.items logs) .empty).map (·.2) ↔ harmless)) ∧
      (harmless → r'.2 = r.2) := by
  intro a logs logs' r r' harmless
  have resembling : List.Forall₂ Item.Resembles (a.items logs) (a.items logs') :=
    a.items_emptied hlog before after
  have start : Session.SameBut [duplicatedId] .empty .empty := ⟨rfl, Memory.alikeBut_refl _⟩
  have matched : Step.Matches (Session.SameBut [duplicatedId])
      (Option.guard (·.check ≠ duplicatedId)) (a.judgeLogs logs) (a.judgeLogs logs') := by
    rw [judgeLogs_eq_all, judgeLogs_eq_all]
    exact matches_all_resembling resembling
  obtain ⟨hs, shown⟩ := matched .empty .empty start
  rw [List.filterMap_eq_filter] at shown
  have exact : ∀ found, r.2 = .ok found → ((a.accounts (a.items logs') .empty).map (·.2) =
      (a.accounts (a.items logs) .empty).map (·.2) ↔ harmless) := by
    intro found hr
    have hall : Step.all ((a.items logs).map a.judge) .empty = (r.1, .ok found) := by
      rw [← judgeLogs_eq_all, ← hr]
    rw [accounts_eq_iff resembling start (declares_empty a) (declares_empty a) hall]
    exact or_congr_right (a.judgedSets_emptied hlog before after)
  refine ⟨hs.schema.symm, shown.symm, exact, fun hharmless => ?_⟩
  have both : r.2.map (List.filter (·.check ≠ duplicatedId)) =
    r'.2.map (List.filter (·.check ≠ duplicatedId)) := shown
  rcases hr : r.2 with failure | found <;> rcases hr' : r'.2 with failure' | found' <;>
    rw [hr, hr'] at both
  · cases both
    rfl
  · cases both
  · cases both
  · have hall : Step.all ((a.items logs).map a.judge) .empty = (r.1, .ok found) := by
      rw [← judgeLogs_eq_all, ← hr]
    have hall' : Step.all ((a.items logs').map a.judge) .empty = (r'.1, .ok found') := by
      rw [← judgeLogs_eq_all, ← hr']
    have same := (exact found hr).mpr hharmless
    rw [(accounts_of_ok hall).2, (accounts_of_ok hall').2, List.flatMap_def, List.flatMap_def, same]

/-- A changelog without a logical path, of one set without changes. -/
def unpathedLog (file id : String) : Changelog :=
  ⟨none, file, [⟨id, some "dev", [], none, [], []⟩]⟩

theorem judgeLogs_emptied_otherId :
    let logs := [unpathedLog "a" "1", unpathedLog "b" "1", unpathedLog "c" "2"]
    let logs' := [unpathedLog "a" "1", unpathedLog "b" "1", (unpathedLog "c" "2").withEmptyPath]
    (plain.judgeLogs logs .empty).2.map (List.map fun x => (x.check, x.issue.cause)) =
        .ok [("duplicatedId", .duplicatedAcrossFiles "1" "a")] ∧
      (plain.judgeLogs logs' .empty).2 = (plain.judgeLogs logs .empty).2 := by
  intro logs logs'
  have own : ∀ place ∈ plain.judgedSets [unpathedLog "c" "2"], place.changeSet.id = "2" := by
    decide +kernel
  have interchangeable : Interchangeable
      (plain.judgedSets [unpathedLog "a" "1", unpathedLog "b" "1"]) (plain.judgedSets []) "2" :=
    ⟨by decide +kernel, fun _ => List.forall_mem_nil _⟩
  have unpathed : (unpathedLog "c" "2").logicalFilePath = none := rfl
  obtain ⟨-, -, -, same⟩ := judgeLogs_emptied .plain plain.naming unpathed
    [unpathedLog "a" "1", unpathedLog "b" "1"] []
  refine ⟨by decide +kernel, same (.inr fun place hplace => ?_)⟩
  rw [own place hplace]
  exact interchangeable

/-- A set of an identifier that is declared in another file goes unnoticed once the changelog has an
empty logical path. -/
theorem duplicate_missed_under_empty_path :
    let settings := { Settings.default with issuePattern := none }
    let audit (second : Changelog) :=
      auditChangelogs (fun _ => "") settings [unpathedLog "a" "1", second]
    (audit (unpathedLog "b" "1")).map (List.map (·.cause)) =
        .ok [.duplicatedAcrossFiles "1" "a"] ∧
      audit (unpathedLog "b" "1").withEmptyPath = .ok [] ∧
      audit (unpathedLog "b" "1").withEmptyPath ≠ audit (unpathedLog "b" "1") := by
  decide +kernel

end Audit

end MigrationAudit
