import MigrationAudit.Proofs.Session.Comparison

/-!
# Leaving checks out

To ignore more checks is to filter what a session finds: where a session succeeds, the session that
leaves out further checks succeeds as well, ends with the same schema, and finds the same without
what those checks found (`Audit.judgeLogs_ignoring`).  For what is remembered is split among the
checks: each part is read and written by checks of one name alone (`Check.duplicatedIndex_eq` and its
like), so a check that is left out is missed by no other.
-/

namespace MigrationAudit

def Settings.ignoring (s : Settings) (names : List String) : Settings :=
  { s with ignoreRules := s.ignoreRules ++ names }

def Policy.ignoring (p : Policy) (names : List String) : Policy :=
  { p with ignored := p.ignored ++ names }

/-- The audit with further checks left out, and perhaps with other names for nameless constraints. -/
def Audit.ignoring (a : Audit) (names : List String) (naming : Naming) : Audit :=
  { a with policy := a.policy.ignoring names, naming }

theorem Policy.ofSettings_ignoring (s : Settings) (names : List String) :
    ofSettings (s.ignoring names) = (ofSettings s).map (·.ignoring names) := by
  change _ = (·.ignoring names) <$> ofSettings s
  simp only [ofSettings, map_bind, map_pure]
  rfl

theorem Policy.ignores_ignoring (p : Policy) (names : List String) (check : String) :
    (p.ignoring names).ignores check = (p.ignores check || decide (check ∈ names)) := by
  simp [ignores, ignoring]

/-! ## What the checks remember -/

namespace Check

theorem duplicatedIndex_eq (place : ChangePlace) (memory : Memory) :
    duplicatedIndex place memory =
      let alone := duplicatedIndex place { Memory.empty with indexes := memory.indexes }
      (alone.1, { memory with indexes := alone.2.indexes }) := by
  simp only [duplicatedIndex]
  cases place.change.element with
  | createIndex => cases memory.indexes.owner? (indexKey place.change) <;> rfl
  | dropIndex => cases place.change.text? .indexName <;> rfl
  | _ => rfl

theorem insertedElsewhere_eq (place : ChangePlace) (memory : Memory) :
    insertedElsewhere place memory =
      let alone := insertedElsewhere place { Memory.empty with inserters := memory.inserters }
      (alone.1, { memory with inserters := alone.2.inserters }) := by
  simp only [insertedElsewhere]
  cases insertedTable? place.change with
  | none => rfl
  | some table => cases ho : memory.inserters.get? table <;> simp only [ho]

theorem duplicatedSet_eq (place : SetPlace) (memory : Memory) :
    duplicatedSet place memory =
      let alone := duplicatedSet place { Memory.empty with declarers := memory.declarers }
      (alone.1, { memory with declarers := alone.2.declarers }) := by
  simp only [duplicatedSet]
  cases memory.declarers.get? (setKey place) <;> rfl

theorem logicalPath_eq (expected : ExpectedPath) (log : Changelog) (memory : Memory) :
    logicalPath expected log memory =
      let alone := logicalPath expected log { Memory.empty with judgedFiles := memory.judgedFiles }
      (alone.1, { memory with judgedFiles := alone.2.judgedFiles }) := by
  unfold logicalPath
  by_cases h : log.physicalFilePath ∈ memory.judgedFiles <;> simp [h]

end Check

/-- The memories are the same but for the parts of the checks with the names. -/
structure Memory.AlikeBut (names : List String) (m m' : Memory) : Prop where
  indexes : ChangeCheck.duplicatedIndex.name ∉ names → m.indexes = m'.indexes
  inserters : ChangeCheck.insertedElsewhere.name ∉ names → m.inserters = m'.inserters
  declarers : SetCheck.duplicatedSet.name ∉ names → m.declarers = m'.declarers
  judgedFiles : SetCheck.logicalPath.name ∉ names → m.judgedFiles = m'.judgedFiles

section Memories

variable {names : List String} {m m' : Memory} {f : String → String}

theorem Memory.alikeBut_refl (m : Memory) : m.AlikeBut names m :=
  ⟨fun _ => rfl, fun _ => rfl, fun _ => rfl, fun _ => rfl⟩

theorem Memory.AlikeBut.symm (h : m.AlikeBut names m') : m'.AlikeBut names m where
  indexes hn := (h.indexes hn).symm
  inserters hn := (h.inserters hn).symm
  declarers hn := (h.declarers hn).symm
  judgedFiles hn := (h.judgedFiles hn).symm

theorem Memory.AlikeBut.trans {m'' : Memory} (h : m.AlikeBut names m')
    (h' : m'.AlikeBut names m'') : m.AlikeBut names m'' where
  indexes hn := (h.indexes hn).trans (h'.indexes hn)
  inserters hn := (h.inserters hn).trans (h'.inserters hn)
  declarers hn := (h.declarers hn).trans (h'.declarers hn)
  judgedFiles hn := (h.judgedFiles hn).trans (h'.judgedFiles hn)

/-- A check that is left out in one session changes in the other only its own part. -/
theorem ChangeCheck.run_alikeBut (h : m.AlikeBut names m') {check : ChangeCheck}
    (hn : check.name ∈ names) (policy : Policy) (store : Store) (place : ChangePlace) :
    (check.run policy store place m).2.AlikeBut names m' := by
  cases check with
  | duplicatedIndex =>
    simp only [run]
    rw [Check.duplicatedIndex_eq]
    exact { h with indexes := fun hno => absurd hn hno }
  | insertedElsewhere =>
    simp only [run]
    rw [Check.insertedElsewhere_eq]
    exact { h with inserters := fun hno => absurd hn hno }
  | _ => exact h

theorem ChangeCheck.alikeBut_run (check : ChangeCheck) (policy : Policy) (store : Store)
    (place : ChangePlace) (memory : Memory) :
    (check.run policy store place memory).2.AlikeBut [check.name] memory :=
  run_alikeBut (Memory.alikeBut_refl memory) List.mem_cons_self policy store place

/-- A check that runs in both sessions finds the same in both and keeps what they remember alike. -/
theorem ChangeCheck.run_both (h : m.AlikeBut names m') {check : ChangeCheck}
    (hn : check.name ∉ names) {store store' : Store} (hs : store.Alike [] f store')
    (policy : Policy) (place : ChangePlace) :
    (check.run policy store place m).1.renamed f = (check.run policy store' place m').1.renamed f ∧
      (check.run policy store place m).2.AlikeBut names (check.run policy store' place m').2 := by
  cases hscope : check.scope with
  | single =>
    refine ⟨run_congr hscope hs place.alike_refl (List.disjoint_nil_right _) policy m m', ?_⟩
    rw [run_memory hscope, run_memory hscope]
    exact h
  | session =>
    cases check with
    | duplicatedIndex =>
      have indexes := h.indexes hn
      simp only [run]
      rw [Check.duplicatedIndex_eq place m, Check.duplicatedIndex_eq place m', indexes]
      exact ⟨rfl, { h with indexes := fun _ => rfl }⟩
    | insertedElsewhere =>
      have inserters := h.inserters hn
      simp only [run]
      rw [Check.insertedElsewhere_eq place m, Check.insertedElsewhere_eq place m', inserters]
      exact ⟨rfl, { h with inserters := fun _ => rfl }⟩
    | _ => cases hscope

theorem SetCheck.run_alikeBut (h : m.AlikeBut names m') {check : SetCheck}
    (hn : check.name ∈ names) (policy : Policy) (place : SetPlace) :
    (check.run policy place m).2.AlikeBut names m' := by
  cases check with
  | logicalPath =>
    simp only [run]
    cases policy.expectedPath with
    | none => exact h
    | some expected =>
      simp only
      rw [Check.logicalPath_eq]
      exact { h with judgedFiles := fun hno => absurd hn hno }
  | duplicatedSet =>
    simp only [run]
    rw [Check.duplicatedSet_eq]
    exact { h with declarers := fun hno => absurd hn hno }
  | checkSums => exact h

theorem SetCheck.alikeBut_run (check : SetCheck) (policy : Policy) (place : SetPlace)
    (memory : Memory) : (check.run policy place memory).2.AlikeBut [check.name] memory :=
  run_alikeBut (Memory.alikeBut_refl memory) List.mem_cons_self policy place

theorem SetCheck.run_both (h : m.AlikeBut names m') {check : SetCheck} (hn : check.name ∉ names)
    (policy : Policy) (place : SetPlace) :
    (check.run policy place m).1 = (check.run policy place m').1 ∧
      (check.run policy place m).2.AlikeBut names (check.run policy place m').2 := by
  cases check with
  | logicalPath =>
    simp only [run]
    cases policy.expectedPath with
    | none => exact ⟨rfl, h⟩
    | some expected =>
      have judgedFiles := h.judgedFiles hn
      simp only
      rw [Check.logicalPath_eq expected place.log m, Check.logicalPath_eq expected place.log m',
        judgedFiles]
      exact ⟨rfl, { h with judgedFiles := fun _ => rfl }⟩
  | duplicatedSet =>
    have declarers := h.declarers hn
    simp only [run]
    rw [Check.duplicatedSet_eq place m, Check.duplicatedSet_eq place m', declarers]
    exact ⟨rfl, { h with declarers := fun _ => rfl }⟩
  | checkSums => exact ⟨rfl, h⟩

end Memories

theorem ChangeCheck.run_ignoring (check : ChangeCheck) (p : Policy) (names : List String) :
    check.run (p.ignoring names) = check.run p := by
  cases check <;> rfl

theorem SetCheck.run_ignoring (check : SetCheck) (p : Policy) (names : List String) :
    check.run (p.ignoring names) = check.run p := by
  cases check <;> rfl

/-! ## The session with further checks left out -/

/-- Names drawn for constraints make no difference to the check. -/
def ExtraChangeCheck.Blind (check : ExtraChangeCheck) : Prop :=
  ∀ place (store store' : Store), store.masked = store'.masked →
    (check.run store place).renamed mask = (check.run store' place).renamed mask

/-- The sessions have the same schema up to the renaming and remember the same but for the parts of
the checks with the names. -/
structure Session.AlikeBut (names : List String) (f : String → String) (s s' : Session) : Prop where
  schema : Schema.Agree [] f 0 s.schema s'.schema
  memory : s.memory.AlikeBut names s'.memory

/-- Findings of other checks than those with the names, up to the renaming. -/
def shownBut (names : List String) (f : String → String) (x : Finding) : Option Finding :=
  if x.check ∈ names then none else some (x.renamed f)

namespace Audit

theorem filterMap_shownBut_tagged (names : List String) (f : String → String) (check : String)
    (issues : List Issue) : (tagged check issues).filterMap (shownBut names f) =
      if check ∈ names then [] else tagged check (issues.map (Issue.renamed f)) := by
  unfold tagged
  rw [List.filterMap_map]
  split
  · next h => simp [Function.comp_def, shownBut, h]
  · next h => simp [Function.comp_def, shownBut, h, Finding.renamed]

theorem filterMap_renamed_tagged (f : String → String) (check : String) (issues : List Issue) :
    (tagged check issues).filterMap (some ∘ Finding.renamed f) =
      tagged check (issues.map (Issue.renamed f)) := by
  unfold tagged
  simp [Function.comp_def, Finding.renamed]

section Following

variable {a : Audit} {names : List String} {naming' : Naming} {f g : String → String}

/-- The second step follows the first one, where further checks are left out in the second
session. -/
def FollowsBut (names : List String) (f g : String → String) (first second : Step) : Prop :=
  Step.Follows (Session.AlikeBut names f) (shownBut names g) (some ∘ Finding.renamed g) first second

/-- A check that is to be left out may find what it will and remember it in its own part; another one
has to find the same in both sessions. -/
theorem followsBut_checked {check : String} {run run' : Session → Findings × Memory}
    (out : check ∈ names → ∀ s s', Session.AlikeBut names f s s' →
      (run s).2.AlikeBut names s'.memory)
    (both : check ∉ names → ∀ s s', Session.AlikeBut names f s s' →
      (run s).1.renamed g = (run' s').1.renamed g ∧ (run s).2.AlikeBut names (run' s').2) :
    FollowsBut names f g (a.unlessIgnored check (checked check run))
      ((a.ignoring names naming').unlessIgnored check (checked check run')) := by
  have ignores : (a.ignoring names naming').policy.ignores check =
      (a.policy.ignores check || decide (check ∈ names)) :=
    a.policy.ignores_ignoring names check
  unfold unlessIgnored
  rw [ignores]
  by_cases hi : a.policy.ignores check = true
  · rw [if_pos hi, if_pos (by simp [hi])]
    exact Step.follows_nothing
  rw [if_neg hi]
  intro s s' t found hs h
  obtain ⟨rfl, issues, hrun, rfl⟩ := checked_eq_ok h
  by_cases hn : check ∈ names
  · -- left out in the second session alone, so what it remembers in the first one is its own part
    rw [if_pos (by simp [hn])]
    refine ⟨s', [], rfl, ⟨hs.schema, out hn s s' hs⟩, ?_⟩
    rw [filterMap_shownBut_tagged, if_pos hn, List.filterMap_nil]
  · rw [if_neg (by simp [hi, hn])]
    obtain ⟨hfound, memory⟩ := both hn s s' hs
    obtain ⟨issues', hrun', same⟩ := Findings.exists_ok_of_renamed_eq hfound hrun
    refine ⟨_, _, checked_of_ok hrun', ⟨hs.schema, memory⟩, ?_⟩
    rw [filterMap_shownBut_tagged, if_neg hn, filterMap_renamed_tagged, same]

theorem followsBut_setIssues (check : String) (issues : List Issue) :
    FollowsBut names f g (a.unlessIgnored check (setIssues check issues))
      ((a.ignoring names naming').unlessIgnored check (setIssues check issues)) := by
  rw [setIssues_eq_checked]
  exact followsBut_checked (fun _ _ _ hs => hs.memory) fun _ _ _ hs => ⟨rfl, hs.memory⟩

theorem followsBut_judgeSet (place : SetPlace) :
    FollowsBut names f g (a.judgeSet place) ((a.ignoring names naming').judgeSet place) := by
  refine judgeSet_related Step.follows_nothing Step.Follows.andThen rfl rfl followsBut_setIssues
    fun check => ?_
  have hrun : check.run (a.ignoring names naming').policy = check.run a.policy :=
    check.run_ignoring a.policy names
  rw [setCheckStep_eq_checked, setCheckStep_eq_checked, hrun]
  refine followsBut_checked (fun hn s s' hs => ?_) fun hn s s' hs => ?_
  · exact SetCheck.run_alikeBut hs.memory hn a.policy place
  · obtain ⟨issues, memory⟩ := SetCheck.run_both hs.memory hn a.policy place
    exact ⟨by rw [issues], memory⟩

variable {place : ChangePlace}

theorem followsBut_replayStep (hc : place.change.Respects [] f)
    (hnaming : ∀ i, f (a.naming i) = f (naming' i)) :
    FollowsBut names f g (a.replayStep place) ((a.ignoring names naming').replayStep place) := by
  intro s s' t found hs h
  obtain ⟨hfail, rfl, rfl⟩ := a.replayStep_eq_ok_iff.mp h
  have schema := hs.schema.replay a.naming naming' hc fun i _ _ => hnaming i
  exact ⟨_, [], (a.ignoring names naming').replayStep_eq_ok_iff.mpr ⟨hfail, rfl, rfl⟩,
    ⟨schema, hs.memory⟩, rfl⟩

/-- What is needed of the renamings and the further checks to compare what is found: the coarser
renaming decides about findings, and to it no drawn name makes a difference. -/
structure Comparable (a : Audit) (naming' : Naming) (f g : String → String) : Prop where
  coarser : g ∘ f = g
  naming : ∀ i, f (a.naming i) = f (naming' i)
  extra : ∀ check ∈ a.extraChangeChecks, ∀ s s' : Schema, Schema.Agree [] f 0 s s' →
    ∀ place, (check.run s.store place).renamed g = (check.run s'.store place).renamed g

theorem followsBut_judgeChange (hcmp : a.Comparable naming' f g)
    (hc : place.change.Respects [] f) :
    FollowsBut names f g (a.judgeChange place) ((a.ignoring names naming').judgeChange place) := by
  refine judgeChange_related Step.follows_nothing Step.Follows.andThen rfl rfl
    (followsBut_replayStep hc hcmp.naming) (fun check hcheck => ?_) fun check => ?_
  · rw [extraChangeStep_eq_checked, extraChangeStep_eq_checked]
    exact followsBut_checked (fun _ _ _ hs => hs.memory) fun _ s s' hs =>
      ⟨hcmp.extra check hcheck _ _ hs.schema place, hs.memory⟩
  · have hrun : check.run (a.ignoring names naming').policy = check.run a.policy :=
      check.run_ignoring a.policy names
    rw [hrun]
    refine followsBut_checked (fun hn s s' hs => ?_) fun hn s s' hs => ?_
    · exact ChangeCheck.run_alikeBut hs.memory hn a.policy s.schema.store place
    · have look := hs.schema.sight_eq hcmp.coarser
      have store := Schema.alike_of_sight hs.schema.columnar hs.schema.columnar' look
      exact ChangeCheck.run_both hs.memory hn store a.policy place

theorem followsBut_judgeLogs (hcmp : a.Comparable naming' f g) {logs : List Changelog}
    (hc : ∀ place ∈ a.judged logs, place.change.Respects [] f) :
    FollowsBut names f g (a.judgeLogs logs) ((a.ignoring names naming').judgeLogs logs) := by
  rw [judgeLogs_eq_all, judgeLogs_eq_all]
  have items : (a.ignoring names naming').items logs = a.items logs := rfl
  rw [items]
  refine Step.Follows.all_map fun item hitem => ?_
  cases item with
  | set place => exact followsBut_judgeSet place
  | change place => exact followsBut_judgeChange hcmp (hc place (a.mem_judged_of_mem_items hitem))

end Following

theorem respects_of_fixes {a : Audit} {logs : List Changelog} {f : String → String}
    (h : ∀ name ∈ a.droppedNames logs, Fixes f name) :
    ∀ place ∈ a.judged logs, place.change.Respects [] f := fun place hplace =>
  ⟨List.disjoint_nil_right _, fun name hname =>
    h name (List.mem_flatMap.mpr ⟨place, hplace, hname⟩)⟩

theorem filterMap_shownBut (names : List String) (f : String → String) (found : List Finding) :
    found.filterMap (shownBut names f) =
      (found.filter fun x => x.check ∉ names).map (Finding.renamed f) := by
  rw [← List.filterMap_eq_map, List.filterMap_filter]
  refine List.filterMap_congr fun x _ => ?_
  by_cases hx : x.check ∈ names <;> simp [shownBut, hx]

variable {a : Audit} {settings : Settings} {logs : List Changelog} {s : Session}
  {found : List Finding}

/-- What the session with further checks left out comes to, up to renamings. -/
theorem exists_judgeLogs_ignoring {naming' : Naming} {f g : String → String}
    (hcmp : a.Comparable naming' f g) (hfix : ∀ name ∈ a.droppedNames logs, Fixes f name)
    (h : a.judgeLogs logs .empty = (s, .ok found)) (names : List String) :
    ∃ s' found', (a.ignoring names naming').judgeLogs logs .empty = (s', .ok found') ∧
      Schema.Agree [] f 0 s.schema s'.schema ∧
      found'.map (Finding.renamed g) =
        (found.filter fun x => x.check ∉ names).map (Finding.renamed g) := by
  have start : Session.AlikeBut names f .empty .empty :=
    ⟨.refl Schema.columnar_empty, Memory.alikeBut_refl _⟩
  obtain ⟨s', found', h', hs, same⟩ :=
    followsBut_judgeLogs hcmp (respects_of_fixes hfix) .empty .empty s found start h
  refine ⟨s', found', h', hs.schema, ?_⟩
  rw [← filterMap_shownBut, same, List.filterMap_eq_map]

/-- Where a session succeeds, the session that ignores further checks succeeds as well.  It ends
with the same schema and finds the same but for what these checks found; if it draws other names for
constraints, this holds up to the drawn names. -/
theorem judgeLogs_ignoring (hpolicy : Policy.ofSettings settings = .ok a.policy)
    (h : a.judgeLogs logs .empty = (s, .ok found)) (names : List String) :
    Policy.ofSettings (settings.ignoring names) = .ok (a.policy.ignoring names) ∧
      (∃ s', (a.ignoring names a.naming).judgeLogs logs .empty =
          (s', .ok (found.filter fun x => x.check ∉ names)) ∧ s'.schema = s.schema) ∧
      ∀ naming', Naming.Alike (a.droppedNames logs) a.naming naming' →
        (∀ check ∈ a.extraChangeChecks, check.Blind) →
          ∃ s' found', (a.ignoring names naming').judgeLogs logs .empty = (s', .ok found') ∧
            s'.schema.store.masked = s.schema.store.masked ∧
            found'.map Finding.masked =
              (found.filter fun x => x.check ∉ names).map Finding.masked := by
  refine ⟨?_, ?_, fun naming' halike hblind => ?_⟩
  · rw [Policy.ofSettings_ignoring, hpolicy]
    rfl
  · -- with the same names drawn, the two sessions compare without any renaming
    have hcmp : a.Comparable a.naming id id :=
      ⟨rfl, fun _ => rfl, fun _ _ _ _ hs _ => by rw [hs.eq_of_id]⟩
    obtain ⟨s', found', h', hs, same⟩ :=
      exists_judgeLogs_ignoring hcmp (fun name _ => fixes_id name) h names
    rw [Finding.renamed_id, List.map_id, List.map_id] at same
    exact ⟨s', same ▸ h', hs.eq_of_id.symm⟩
  · obtain ⟨f, hfix, hnaming⟩ := halike.exists_renaming
    have masked : ∀ {r r' : Schema}, Schema.Agree [] f 0 r r' → r.store.masked = r'.store.masked :=
      fun hr => Schema.masked_eq hr.columnar hr.columnar' (hr.sight_eq rfl)
    have hcmp : a.Comparable naming' f mask :=
      ⟨rfl, hnaming, fun check hcheck _ _ hs place => hblind check hcheck place _ _ (masked hs)⟩
    obtain ⟨s', found', h', hs, same⟩ := exists_judgeLogs_ignoring hcmp hfix h names
    rw [Finding.masked_eq_renamed]
    exact ⟨s', found', h', (masked hs).symm, same⟩

/-- A column with a nameless key, renamed to a name that is not in lower case. -/
def keyedColumnLog : Changelog := .ofChanges
  [.ofTexts .createTable [(.tableName, "t")] [.ofType "v" "VARCHAR(10)"],
    .ofTexts .addPrimaryKey [(.tableName, "t"), (.columnNames, "v")] [],
    .ofTexts .renameColumn
      [(.tableName, "t"), (.oldColumnName, "v"), (.newColumnName, "W")] []]

/-- What is found with the renamed column: its name and its key. -/
def foundInKeyedColumnLog : List Finding :=
  [⟨"lowerCase", ⟨"", some "renameColumn", some "newColumnName", .notLowerCase (some "W"), some "",
      none⟩⟩,
    ⟨"columnConstraints", ⟨"", some "renameColumn", none,
      .renamedWhileReferred "t" "v" [⟨.primaryKey, .drawn ""⟩], some "", none⟩⟩]

theorem judgeLogs_ignoring_lowerCase :
    (plain.judgeLogs [keyedColumnLog] .empty).2 = .ok foundInKeyedColumnLog ∧
      (∃ s', (plain.ignoring ["lowerCase"] plain.naming).judgeLogs [keyedColumnLog] .empty =
          (s', .ok (foundInKeyedColumnLog.filter fun x => x.check ∉ ["lowerCase"])) ∧
        s'.schema = (plain.judgeLogs [keyedColumnLog] .empty).1.schema) ∧
      ∃ s' found', (plain.ignoring ["lowerCase"] fun _ => "key").judgeLogs [keyedColumnLog] .empty =
          (s', .ok found') ∧
        s'.schema.store.masked =
          (plain.judgeLogs [keyedColumnLog] .empty).1.schema.store.masked ∧
        found'.map Finding.masked =
          (foundInKeyedColumnLog.filter fun x => x.check ∉ ["lowerCase"]).map Finding.masked := by
  have found : (plain.judgeLogs [keyedColumnLog] .empty).2 = .ok foundInKeyedColumnLog := by
    decide +kernel
  have settings : Policy.ofSettings { Settings.default with issuePattern := none } =
    .ok plain.policy := rfl
  have dropped : plain.droppedNames [keyedColumnLog] = [] := by decide +kernel
  obtain ⟨-, same, masked⟩ :=
    judgeLogs_ignoring settings (Step.eq_mk_of_snd found) ["lowerCase"]
  refine ⟨found, same, masked _ ?_ (List.forall_mem_nil _)⟩
  rw [dropped]
  exact fun _ => List.forall_mem_nil _

end Audit

end MigrationAudit
