import MigrationAudit.Proofs.Session.Draws

/-!
# Names that are written and names that are drawn

What a change drops by name it drops by a name that is written in it (`Change.droppedNames_subset`).
So as long as no name that is drawn for a constraint is written in the changelogs as the name of a
constraint or an index, it makes no difference which names are drawn: the audit fails alike or finds
the same, up to these names (`Audit.judgeLogs_avoiding`).
-/

namespace MigrationAudit

/-- The attributes under which names of constraints and indexes are written. -/
def Attribute.ofConstraintNames : List Attribute :=
  [.constraintName, .indexName, .notNullConstraintName, .primaryKeyName, .uniqueConstraintName,
   .foreignKeyName]

namespace Change

/-- The names of constraints and indexes that are written in the change itself. -/
def ownConstraintNames (c : Change) : List String := Attribute.ofConstraintNames.filterMap c.text?

/-- The names of constraints and indexes that are written in the change or inline with its columns. -/
def constraintNames (c : Change) : List String :=
  c.ownConstraintNames ++ c.columns.flatMap fun n => n.constraints?.toList.flatMap fun k =>
    Attribute.ofConstraintNames.filterMap k.text?

variable {c : Change} {a : Attribute} {w : String}

theorem mem_ownConstraintNames (ha : a ∈ Attribute.ofConstraintNames) (h : c.text? a = some w) :
    w ∈ c.ownConstraintNames :=
  List.mem_filterMap.mpr ⟨a, ha, h⟩

theorem droppedName_of_mem_detachByName (owner : Attribute) {target : Attribute}
    (ht : target ∈ Attribute.ofConstraintNames) :
    ∀ e ∈ (Script.ofResult (c.detachByName owner target)).edits,
      ∀ w ∈ e.droppedName?, w ∈ c.ownConstraintNames := by
  refine forall_mem_edits_require fun t _ e he w hw => ?_
  obtain ⟨name, hname, rfl⟩ := List.mem_map.mp he
  obtain rfl := Option.some.inj hw
  exact mem_ownConstraintNames ht (Option.mem_toList.mp hname)

theorem droppedName_of_mem_constraintScript (helement : c.element.attaches = false) :
    ∀ e ∈ c.constraintScript.edits, ∀ w ∈ e.droppedName?, w ∈ c.ownConstraintNames := by
  unfold constraintScript
  cases element : c.element with
  | dropIndex => exact droppedName_of_mem_detachByName .tableName (by decide)
  | dropUniqueConstraint => exact droppedName_of_mem_detachByName .tableName (by decide)
  | dropForeignKeyConstraint => exact droppedName_of_mem_detachByName .baseTableName (by decide)
  | dropPrimaryKey =>
    refine forall_mem_edits_require fun t _ e he w hw => ?_
    rw [List.mem_singleton.mp he] at hw
    exact mem_ownConstraintNames (by decide) hw
  | dropAllForeignKeyConstraints =>
    refine forall_mem_edits_require fun t _ e he w hw => ?_
    rw [List.mem_singleton.mp he] at hw
    cases hw
  | createTable | addColumn | createIndex | addUniqueConstraint | addPrimaryKey
  | addForeignKeyConstraint =>
    rw [element] at helement
    cases helement
  | _ => exact List.forall_mem_nil _

/-- A change looks for constraints to drop under names that are written in it. -/
theorem droppedNames_subset (c : Change) : c.droppedNames ⊆ c.constraintNames := by
  cases helement : c.element.attaches with
  | true =>
    rw [droppedNames_eq_nil helement]
    exact List.nil_subset _
  | false =>
    intro w hw
    obtain ⟨e, he, hw⟩ := List.mem_filterMap.mp hw
    refine List.mem_append_left _ ?_
    rcases mem_script he with he | he
    · rw [(columnEdit_of_mem_columnScript c e he).droppedName?_eq_none] at hw
      cases hw
    · exact droppedName_of_mem_constraintScript helement e he w hw

end Change

/-- The changes that are written in a changelog. -/
def Changelog.changes (log : Changelog) : List Change := log.changeSets.flatMap (·.changes)

/-- The names of constraints and indexes that are written in changelogs. -/
def writtenNames (logs : List Changelog) : List String :=
  (logs.flatMap Changelog.changes).flatMap Change.constraintNames

namespace Naming

/-- No draw yields any of the names. -/
def Avoids (naming : Naming) (names : List String) : Prop := ∀ i, naming i ∉ names

theorem Avoids.alike {naming naming' : Naming} {names names' : List String}
    (h : naming.Avoids names) (h' : naming'.Avoids names) (hsub : names' ⊆ names) :
    Alike names' naming naming' := by
  intro i name hname
  refine iff_of_false ?_ ?_
  · rintro rfl
    exact h i (hsub hname)
  · rintro rfl
    exact h' i (hsub hname)

end Naming

namespace Audit

variable {naming naming' : Naming}

theorem change_mem_of_mem_judged {a : Audit} {logs : List Changelog} {place : ChangePlace}
    (h : place ∈ a.judged logs) : place.change ∈ logs.flatMap Changelog.changes := by
  obtain ⟨log, hlog, h⟩ := List.mem_flatMap.mp h
  obtain ⟨around, hset, h⟩ := List.mem_flatMap.mp h
  obtain ⟨set, hmem, rfl⟩ := List.mem_map.mp (List.mem_filter.mp hset).1
  have change := List.mem_map_of_mem (f := (·.change)) h
  rw [SetPlace.places_map_change] at change
  exact List.mem_flatMap.mpr ⟨log, hlog, List.mem_flatMap.mpr ⟨set, hmem, change⟩⟩

theorem droppedNames_subset_writtenNames (a : Audit) (logs : List Changelog) :
    a.droppedNames logs ⊆ writtenNames logs := by
  intro w hw
  obtain ⟨place, hplace, hw⟩ := List.mem_flatMap.mp hw
  exact List.mem_flatMap.mpr
    ⟨place.change, change_mem_of_mem_judged hplace, place.change.droppedNames_subset hw⟩

theorem map_issue_masked (r : Except Failure (List Finding)) :
    (r.map (List.map Finding.issue)).map (List.map Issue.masked) =
      (r.map (List.map Finding.masked)).map (List.map Finding.issue) := by
  rcases r with failure | found
  · rfl
  · simp only [Except.map, List.map_map]
    rfl

/-- Which names are drawn for constraints makes no difference, as long as none of them is written in
the changelogs as the name of a constraint or an index.  Under any settings both audits fail with the
same failure or find the same issues in the same order, and both sessions end with the same store and
remember the same, always up to the drawn names. -/
theorem judgeLogs_avoiding (settings : Settings) {logs : List Changelog}
    (h : naming.Avoids (writtenNames logs)) (h' : naming'.Avoids (writtenNames logs)) :
    (auditChangelogs naming' settings logs).map (List.map Issue.masked) =
        (auditChangelogs naming settings logs).map (List.map Issue.masked) ∧
      ∀ policy, Policy.ofSettings settings = .ok policy →
        let r := (ofPolicy policy naming).judgeLogs logs .empty
        let r' := (ofPolicy policy naming').judgeLogs logs .empty
        r'.1.schema.store.masked = r.1.schema.store.masked ∧ r'.1.memory = r.1.memory ∧
          r'.2.map (List.map Finding.masked) = r.2.map (List.map Finding.masked) := by
  have sessions : ∀ policy,
      let r := (ofPolicy policy naming).judgeLogs logs .empty
      let r' := (ofPolicy policy naming').judgeLogs logs .empty
      r'.1.schema.store.masked = r.1.schema.store.masked ∧ r'.1.memory = r.1.memory ∧
        r'.2.map (List.map Finding.masked) = r.2.map (List.map Finding.masked) := by
    intro policy
    have alike := h.alike h' ((ofPolicy policy naming).droppedNames_subset_writtenNames logs)
    have drawing : (ofPolicy policy naming).drawing naming' = ofPolicy policy naming' := rfl
    rw [← drawing]
    exact judgeLogs_drawing alike (List.forall_mem_nil _)
  refine ⟨?_, fun policy _ => sessions policy⟩
  cases hpolicy : Policy.ofSettings settings with
  | error failure => rw [auditChangelogs_of_error hpolicy, auditChangelogs_of_error hpolicy]
  | ok policy =>
    obtain ⟨-, -, found⟩ := sessions policy
    rw [auditChangelogs_of_ok hpolicy, auditChangelogs_of_ok hpolicy, map_issue_masked,
      map_issue_masked, found]

/-- A column with a nameless key and a named one, of which the named one is dropped before the column
is renamed. -/
def twoKeysLog : Changelog := .ofChanges
  [.ofTexts .createTable [(.tableName, "t")] [.ofType "v" "VARCHAR(10)"],
    .ofTexts .addPrimaryKey [(.tableName, "t"), (.columnNames, "v")] [],
    .ofTexts .addUniqueConstraint
      [(.tableName, "t"), (.columnNames, "v"), (.constraintName, "u")] [],
    .ofTexts .dropUniqueConstraint [(.tableName, "t"), (.constraintName, "u")] [],
    .ofTexts .renameColumn
      [(.tableName, "t"), (.oldColumnName, "v"), (.newColumnName, "w")] []]

theorem judgeLogs_avoiding_twoKeys :
    let settings := { Settings.default with issuePattern := none }
    let audit (name : String) := auditChangelogs (fun _ => name) settings [twoKeysLog]
    writtenNames [twoKeysLog] = ["u", "u"] ∧
      (audit "d").map (List.map (·.cause)) = .ok
        [.nullableUnique (some "u") ["v"] "t",
          .renamedWhileReferred "t" "v" [⟨.primaryKey, .drawn "d"⟩]] ∧
      audit "d" ≠ audit "e" ∧
      (audit "e").map (List.map Issue.masked) = (audit "d").map (List.map Issue.masked) ∧
      ((ofPolicy .plain fun _ => "e").judgeLogs [twoKeysLog] .empty).1.schema.store.masked =
        ((ofPolicy .plain fun _ => "d").judgeLogs [twoKeysLog] .empty).1.schema.store.masked := by
  intro settings audit
  have resolved : Policy.ofSettings { Settings.default with issuePattern := none } =
    .ok plain.policy := rfl
  have written : writtenNames [twoKeysLog] = ["u", "u"] := by decide +kernel
  have avoids : ∀ name, name ≠ "u" → Naming.Avoids (fun _ => name) (writtenNames [twoKeysLog]) := by
    intro name hname i
    simpa [written] using hname
  obtain ⟨same, sessions⟩ :=
    judgeLogs_avoiding settings (avoids "d" (by decide)) (avoids "e" (by decide))
  exact ⟨written, by decide +kernel, by decide +kernel, same, (sessions .plain resolved).1⟩

end Audit

end MigrationAudit
