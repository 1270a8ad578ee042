import MigrationAudit.Proofs.Session.Continuing

/-!
# Tables filled from elsewhere

Whatever is judged in a session, and whatever fails in it, the path that it remembers of a table is
that of the changelog with the first insert into the table (`Audit.inserters_sessionAfter`).  So an
insert is reported exactly if the first one came from another path, and a reported insert does not
make its path the one to compare with.  Nothing is reported exactly if all inserts into a table come
from one path, which does not depend on the order of the changelogs
(`Audit.foreign_inserts_reported`).
-/

namespace MigrationAudit

/-! ## The first insert -/

/-- The change that an item judges, in its place. -/
def Item.places : Item → List ChangePlace
  | .set _ => []
  | .change place => [place]

/-- The first of the changes that inserts into the table. -/
def firstInsert? (places : List ChangePlace) (table : String) : Option ChangePlace :=
  places.find? fun place => Check.insertedTable? place.change = some table

theorem firstInsert?_append (places more : List ChangePlace) (table : String) :
    firstInsert? (places ++ more) table =
      (firstInsert? places table).or (firstInsert? more table) :=
  List.find?_append

theorem firstInsert?_singleton {place : ChangePlace} {table : String}
    (h : Check.insertedTable? place.change = some table) :
    firstInsert? [place] table = some place := by
  simp [firstInsert?, h]

theorem firstInsert?_singleton_of_ne {place : ChangePlace} {table : String}
    (h : Check.insertedTable? place.change ≠ some table) : firstInsert? [place] table = none := by
  simp [firstInsert?, h]

theorem exists_firstInsert? {places : List ChangePlace} {place : ChangePlace} {table : String}
    (hplace : place ∈ places) (h : Check.insertedTable? place.change = some table) :
    ∃ first, firstInsert? places table = some first :=
  Option.isSome_iff_exists.mp (List.find?_isSome.mpr ⟨place, hplace, decide_eq_true h⟩)

theorem mem_of_firstInsert? {places : List ChangePlace} {first : ChangePlace} {table : String}
    (h : firstInsert? places table = some first) :
    first ∈ places ∧ Check.insertedTable? first.change = some table :=
  ⟨List.mem_of_find?_eq_some h, by simpa using List.find?_some h⟩

/-- All inserts into one table are in changelogs of one path. -/
def InsertsFromOnePath (places : List ChangePlace) : Prop :=
  ∀ p ∈ places, ∀ q ∈ places, ∀ table, Check.insertedTable? p.change = some table →
    Check.insertedTable? q.change = some table → p.log.filePath = q.log.filePath

theorem InsertsFromOnePath.perm {places places' : List ChangePlace}
    (h : InsertsFromOnePath places) (same : places'.Perm places) : InsertsFromOnePath places' :=
  fun p hp q hq => h p (same.mem_iff.mp hp) q (same.mem_iff.mp hq)

theorem insertsFromOnePath_append {places : List ChangePlace} {place : ChangePlace} :
    InsertsFromOnePath (places ++ [place]) ↔ InsertsFromOnePath places ∧
      ∀ table, Check.insertedTable? place.change = some table →
        ∀ first, firstInsert? places table = some first →
          first.log.filePath = place.log.filePath := by
  constructor
  · intro h
    refine ⟨fun p hp q hq => h p (List.mem_append_left _ hp) q (List.mem_append_left _ hq), ?_⟩
    intro table htable first hfirst
    obtain ⟨hmem, hinserts⟩ := mem_of_firstInsert? hfirst
    exact h first (List.mem_append_left _ hmem) place List.mem_concat_self table hinserts htable
  · rintro ⟨earlier, last⟩
    -- an earlier insert has the path of the first one
    have agree : ∀ p ∈ places, ∀ table, Check.insertedTable? p.change = some table →
        Check.insertedTable? place.change = some table →
          p.log.filePath = place.log.filePath := by
      intro p hp table hinserts htable
      obtain ⟨first, hfirst⟩ := exists_firstInsert? hp hinserts
      obtain ⟨hmem, hinserts'⟩ := mem_of_firstInsert? hfirst
      rw [earlier p hp first hmem table hinserts hinserts', last table htable first hfirst]
    intro p hp q hq table hinserts hinserts'
    rw [List.mem_append, List.mem_singleton] at hp hq
    rcases hp with hp | rfl <;> rcases hq with hq | rfl
    · exact earlier p hp q hq table hinserts hinserts'
    · exact agree p hp table hinserts hinserts'
    · exact (agree q hq table hinserts' hinserts).symm
    · rfl

/-! ## The check -/

theorem ChangeCheck.owns_insertedElsewhere : Owns .insertedElsewhere Memory.inserters where
  name other h := by cases other <;> first | exact absurd rfl h | decide
  run other h policy store place memory := by
    refine (other.alikeBut_run policy store place memory).inserters ?_
    cases other <;> first | exact absurd rfl h | decide

theorem SetCheck.inserters_run (check : SetCheck) (policy : Policy) (place : SetPlace)
    (memory : Memory) : (check.run policy place memory).2.inserters = memory.inserters :=
  (check.alikeBut_run policy place memory).inserters (by cases check <;> decide)

namespace Check

/-- What is said of an insert where the path of the first insert into the table is known. -/
def foreignInsert (place : ChangePlace) (table path : String) : List Issue :=
  if path = place.log.filePath then []
  else [Issue.ofChange place (some "name") (.insertedElsewhere table path)]

theorem insertedElsewhere_fst {place : ChangePlace} {table : String}
    (h : insertedTable? place.change = some table) (memory : Memory) :
    (insertedElsewhere place memory).1 =
      (memory.inserters.get? table).toList.flatMap (foreignInsert place table) := by
  unfold insertedElsewhere
  simp only [h]
  cases memory.inserters.get? table with
  | none => rfl
  | some owner =>
    rw [Option.toList_some, List.flatMap_singleton]
    by_cases hpath : owner = place.log.filePath <;>
      simp [foreignInsert, onChange, causeIf, hpath, Attribute.label]

theorem insertedElsewhere_of_not_insert {place : ChangePlace}
    (h : insertedTable? place.change = none) (memory : Memory) :
    insertedElsewhere place memory = ([], memory) := by
  unfold insertedElsewhere
  rw [h]

/-- Of a table that is inserted into, the first path is kept. -/
theorem get?_inserters_insertedElsewhere {place : ChangePlace} {inserted : String}
    (h : insertedTable? place.change = some inserted) (memory : Memory) (table : String) :
    (insertedElsewhere place memory).2.inserters.get? table = (memory.inserters.get? table).or
      ((firstInsert? [place] table).map (·.log.filePath)) := by
  unfold insertedElsewhere
  simp only [h]
  by_cases heq : inserted = table
  · subst heq
    rw [firstInsert?_singleton h]
    cases hfirst : memory.inserters.get? inserted with
    | none => exact Ledger.get?_set_self memory.inserters inserted place.log.filePath
    | some owner => exact hfirst
  · rw [firstInsert?_singleton_of_ne (by rw [h]; exact mt Option.some.inj heq), Option.map_none,
      Option.or_none]
    cases memory.inserters.get? inserted with
    | none => exact Ledger.get?_set_of_ne memory.inserters place.log.filePath (Ne.symm heq)
    | some owner => rfl

theorem element_of_insertedTable? {c : Change} {table : String}
    (h : insertedTable? c = some table) : c.element = .insert := by
  unfold insertedTable? at h
  by_contra other
  rw [if_neg other] at h
  cases h

end Check

/-! ## Sessions -/

namespace Audit

variable {a : Audit}

/-- None of the further checks fails over an insert. -/
def TriesInserts (a : Audit) : Prop :=
  ∀ check ∈ a.extraChangeChecks, ∀ store (place : ChangePlace), place.change.element = .insert →
    ∃ issues, check.run store place = .ok issues

theorem total_judgeChange_insert (hextra : a.TriesInserts) {place : ChangePlace}
    (h : place.change.element = .insert) : (a.judgeChange place).Total := by
  have replays : place.change.script.failure = none := by
    simp only [Change.script, Change.columnScript, Change.constraintScript, h]
    rfl
  refine judgeChange_induction_applying Step.total_nothing Step.Total.andThen (fun s => ?_)
    (fun check hcheck => ?_) fun check happlies => ?_
  · exact ⟨_, [], a.replayStep_eq_ok_iff.mpr ⟨replays, rfl, rfl⟩⟩
  · rw [extraChangeStep_eq_checked]
    exact total_checked fun s => hextra check hcheck _ place h
  · rw [h] at happlies
    exact total_checked fun s => check.exists_run_eq_ok_of_insert happlies _ _ place _

/-- Whether it fails or not, a change that is no insert leaves what is remembered of inserts. -/
theorem leaves_inserters_judgeChange {place : ChangePlace}
    (h : Check.insertedTable? place.change = none) :
    (a.judgeChange place).Leaves Memory.inserters :=
  leaves_judgeChange fun check store memory => by
    by_cases hcheck : check = .insertedElsewhere
    · subst hcheck
      exact congrArg (·.2.inserters) (Check.insertedElsewhere_of_not_insert h memory)
    · exact ChangeCheck.owns_insertedElsewhere.run check hcheck a.policy store place memory

section Reported

variable (hname : a.Reserves ChangeCheck.insertedElsewhere.name)
include hname

theorem reportedAt_set (place : SetPlace) (s : Session) :
    a.reportedAt ChangeCheck.insertedElsewhere.name (.set place) s = [] :=
  reportedAt_of_spares (spares_judgeSet SetCheck.inserters_run hname place) s

variable (hign : a.policy.ignores ChangeCheck.insertedElsewhere.name = false)
include hign

theorem spares_judgeChange_of_not_insert {place : ChangePlace}
    (h : Check.insertedTable? place.change = none) :
    Step.Spares Memory.inserters ChangeCheck.insertedElsewhere.name (a.judgeChange place) := by
  by_cases happlies : ChangeCheck.insertedElsewhere.appliesTo place.change.element = true
  · -- an insert without a table is tried in vain
    intro s t found judged
    obtain ⟨store, memory, issues, hs, hrun, ht, hfound⟩ :=
      judgeChange_of_owns ChangeCheck.owns_insertedElsewhere hname hign happlies judged
    simp only [ChangeCheck.run, Check.insertedElsewhere_of_not_insert h] at hrun ht
    exact ⟨ht.trans hs, hfound.trans (Except.ok.inj hrun).symm⟩
  · refine spares_judgeChange_of_owns ChangeCheck.owns_insertedElsewhere hname ?_
    rw [changeCheckStep, if_neg happlies]

variable (hextra : a.TriesInserts)
include hextra

/-- An insert is judged, the path that is known of the table is compared with its own, and if there
is none its own is known from now on. -/
theorem judge_insert {place : ChangePlace} {table : String}
    (h : Check.insertedTable? place.change = some table) (s : Session) :
    ∃ t found, a.judge (.change place) s = (t, .ok found) ∧
      (∀ other, t.memory.inserters.get? other = (s.memory.inserters.get? other).or
        ((firstInsert? [place] other).map (·.log.filePath))) ∧
      foundBy ChangeCheck.insertedElsewhere.name found =
        (s.memory.inserters.get? table).toList.flatMap (Check.foreignInsert place table) := by
  have insert := Check.element_of_insertedTable? h
  have happlies : ChangeCheck.insertedElsewhere.appliesTo place.change.element = true := by
    rw [insert]
    rfl
  obtain ⟨t, found, judged⟩ := total_judgeChange_insert hextra insert s
  obtain ⟨store, memory, issues, hs, hrun, ht, hfound⟩ :=
    judgeChange_of_owns ChangeCheck.owns_insertedElsewhere hname hign happlies judged
  refine ⟨t, found, judged, fun other => ?_, ?_⟩
  · rw [ht, ← hs]
    exact Check.get?_inserters_insertedElsewhere h memory other
  · rw [hfound, ← hs, ← Check.insertedElsewhere_fst h]
    exact (Except.ok.inj hrun).symm

theorem inserters_sessionAfter (items : List Item) (table : String) :
    (a.sessionAfter items).memory.inserters.get? table =
      (firstInsert? (items.flatMap Item.places) table).map (·.log.filePath) := by
  induction items using List.reverseRecOn with
  | nil => rfl
  | append_singleton items item ih =>
    rw [sessionAfter_append, List.flatMap_append, List.flatMap_singleton]
    cases item with
    | set place =>
      rw [judge, leaves_judgeSet (fun check => check.inserters_run a.policy place), ih, Item.places,
        List.append_nil]
    | change place =>
      rw [Item.places, firstInsert?_append, Option.map_or, ← ih]
      cases htable : Check.insertedTable? place.change with
      | none =>
        have other : Check.insertedTable? place.change ≠ some table := by
          rw [htable]
          exact (Option.some_ne_none table).symm
        rw [judge, leaves_inserters_judgeChange htable, firstInsert?_singleton_of_ne other,
          Option.map_none, Option.or_none]
      | some inserted =>
        obtain ⟨t, found, judged, known, -⟩ :=
          judge_insert hname hign hextra htable (a.sessionAfter items)
        rw [judged]
        exact known table

/-- What is reported at an insert names the path of the first insert into the table, if it is not
its own. -/
theorem judge_insert_sessionAfter (items : List Item) {place : ChangePlace} {table : String}
    (h : Check.insertedTable? place.change = some table) :
    ∃ found, (a.judge (.change place) (a.sessionAfter items)).2 = .ok found ∧
      foundBy ChangeCheck.insertedElsewhere.name found =
        (firstInsert? (items.flatMap Item.places) table).toList.flatMap fun first =>
          Check.foreignInsert place table first.log.filePath := by
  obtain ⟨t, found, judged, -, reported⟩ :=
    judge_insert hname hign hextra h (a.sessionAfter items)
  refine ⟨found, by rw [judged], ?_⟩
  rw [reported, inserters_sessionAfter hname hign hextra]
  cases firstInsert? (items.flatMap Item.places) table <;> rfl

theorem reports_insertedElsewhere_eq_nil_iff (items : List Item) :
    a.reports ChangeCheck.insertedElsewhere.name items = [] ↔
      InsertsFromOnePath (items.flatMap Item.places) := by
  induction items using List.reverseRecOn with
  | nil => exact ⟨fun _ => List.forall_mem_nil _, fun _ => rfl⟩
  | append_singleton items item ih =>
    rw [reports_append, List.append_eq_nil_iff, ih, List.flatMap_append, List.flatMap_singleton]
    cases item with
    | set place => rw [reportedAt_set hname, Item.places, List.append_nil, and_iff_left rfl]
    | change place =>
      rw [Item.places, insertsFromOnePath_append]
      refine and_congr_right fun _ => ?_
      cases htable : Check.insertedTable? place.change with
      | none =>
        have silent : a.reportedAt ChangeCheck.insertedElsewhere.name (.change place)
            (a.sessionAfter items) = [] :=
          reportedAt_of_spares (spares_judgeChange_of_not_insert hname hign htable) _
        simp [silent]
      | some table =>
        obtain ⟨found, judged, reported⟩ := judge_insert_sessionAfter hname hign hextra items htable
        rw [reportedAt_of_ok judged, reported]
        cases hfirst : firstInsert? (items.flatMap Item.places) table with
        | none => simp [hfirst]
        | some first => simp [Check.foreignInsert, hfirst]

end Reported

/-- An insert into a table is always judged, and it is reported, by the path of the first insert
into the table, exactly if that path is not its own.  So nothing is reported exactly if all inserts
into a table have one path, which is the same for changelogs in any order; and in a session over
changelogs that succeeds, all of these reports are found. -/
theorem foreign_inserts_reported (hname : a.Reserves ChangeCheck.insertedElsewhere.name)
    (hign : a.policy.ignores ChangeCheck.insertedElsewhere.name = false)
    (hextra : a.TriesInserts) :
    (∀ (items : List Item) (place : ChangePlace) (table : String),
      Check.insertedTable? place.change = some table →
        ∃ found first, (a.judge (.change place) (a.sessionAfter items)).2 = .ok found ∧
          (items.flatMap Item.places ++ [place]).find?
            (fun p => Check.insertedTable? p.change = some table) = some first ∧
          foundBy ChangeCheck.insertedElsewhere.name found =
            if first.log.filePath = place.log.filePath then []
            else [Issue.ofChange place (some "name")
              (.insertedElsewhere table first.log.filePath)]) ∧
    (∀ items : List Item, a.reports ChangeCheck.insertedElsewhere.name items = [] ↔
      InsertsFromOnePath (items.flatMap Item.places)) ∧
    (∀ logs logs' : List Changelog, logs'.Perm logs →
      (a.reports ChangeCheck.insertedElsewhere.name (a.items logs') = [] ↔
        a.reports ChangeCheck.insertedElsewhere.name (a.items logs) = [])) ∧
    ∀ logs s found, a.judgeLogs logs .empty = (s, .ok found) →
      foundBy ChangeCheck.insertedElsewhere.name found =
        a.reports ChangeCheck.insertedElsewhere.name (a.items logs) := by
  have fromOnePath := reports_insertedElsewhere_eq_nil_iff hname hign hextra
  refine ⟨fun items place table htable => ?_, fromOnePath, fun logs logs' same => ?_,
    fun logs s found h => foundBy_judgeLogs h⟩
  · obtain ⟨found, judged, reported⟩ :=
      judge_insert_sessionAfter hname hign hextra items htable
    refine ⟨found, (firstInsert? (items.flatMap Item.places) table).getD place, judged, ?_, ?_⟩
    · change firstInsert? _ table = _
      rw [firstInsert?_append, firstInsert?_singleton htable]
      cases firstInsert? (items.flatMap Item.places) table <;> rfl
    · rw [reported]
      cases firstInsert? (items.flatMap Item.places) table with
      | none => simp
      | some first => simp [Check.foreignInsert]
  · have items : (a.items logs').Perm (a.items logs) := same.flatMap_right _
    have places := items.flatMap_right Item.places
    rw [fromOnePath, fromOnePath]
    exact ⟨fun h => h.perm places.symm, fun h => h.perm places⟩

/-- A changelog of a project that fills a table. -/
def countryLog (project file : String) : Changelog :=
  ⟨some project, file, [.ofChanges [.ofTexts .insert [(.tableName, "country")] [.ofName "code"]]]⟩

/-- The first project to fill the table is named to all others, in whatever order they come; files
of one project may fill it together. -/
theorem foreign_inserts_reported_eitherWay :
    let logs := [countryLog "orders" "a", countryLog "billing" "b", countryLog "orders" "c"]
    let reports := plain.reports ChangeCheck.insertedElsewhere.name
    plain.Reserves ChangeCheck.insertedElsewhere.name ∧
      plain.policy.ignores ChangeCheck.insertedElsewhere.name = false ∧ plain.TriesInserts ∧
      (reports (plain.items logs)).map (fun i => (i.file, i.cause)) =
        [("b", .insertedElsewhere "country" "orders")] ∧
      reports (plain.items logs.reverse) ≠ [] ∧
      reports (plain.items [countryLog "orders" "a", countryLog "orders" "c"]) = [] := by
  intro logs reports
  have reserved : plain.Reserves ChangeCheck.insertedElsewhere.name :=
    ⟨List.forall_mem_nil _, List.forall_mem_nil _⟩
  have tried : plain.policy.ignores ChangeCheck.insertedElsewhere.name = false := by decide
  have total : plain.TriesInserts := List.forall_mem_nil _
  obtain ⟨-, -, anyOrder, -⟩ := foreign_inserts_reported reserved tried total
  have reported : (reports (plain.items logs)).map (fun i => (i.file, i.cause)) =
      [("b", .insertedElsewhere "country" "orders")] := by decide +kernel
  refine ⟨reserved, tried, total, reported, fun backwards => ?_, by decide +kernel⟩
  have forwards : reports (plain.items logs) = [] :=
    (anyOrder logs logs.reverse logs.reverse_perm).mp backwards
  rw [forwards] at reported
  cases reported

end Audit

end MigrationAudit
