import MigrationAudit.Proofs.Check.DuplicatedIndex

/-!
# The history of the known indexes

An accepted index stands while it is not dropped and no other one is accepted under its name.  After
every run the owner of a key is the index on it that stands (`owner?_rememberedAfter_iff`), so a new
index is reported exactly if one on its key stands.  All the while names and keys are in pairs, and
there are as many names as keys with an owner.
-/

namespace MigrationAudit.Check

variable {place : ChangePlace} {memory : Memory} {run : List ChangePlace} {name key : String}

/-- The run accepted an index under the name and on the key that it has kept ever since. -/
def Stands (run : List ChangePlace) (name key : String) : Prop :=
  ∃ before p between, run = before ++ p :: between ∧ Accepted p (rememberedAfter before) ∧
    p.change.indexName = name ∧ indexKey p.change = key ∧
      KeepsIndex name (rememberedAfter (before ++ [p])) between

/-! ## One change -/

theorem rememberedAfter_append (run : List ChangePlace) (place : ChangePlace) :
    rememberedAfter (run ++ [place]) = (duplicatedIndex place (rememberedAfter run)).2 :=
  rememberedFrom_append .empty run [place]

theorem IndexStep.keeps_nodup {i j : Indexes} {found : List Issue}
    (hs : IndexStep place i found j) (hd : i.keys.domain.Nodup) : j.keys.domain.Nodup := by
  cases hs with
  | reported owner element owned => exact hd
  | reserved element free => exact Indexes.nodup_names_reserve hd _ _
  | released name drops => exact Indexes.nodup_names_release hd name
  | kept creates drops => exact hd

/-- An owner after a step is the accepted index itself, or was the owner before and is kept. -/
theorem IndexStep.owner?_eq {i j : Indexes} {found : List Issue} (hs : IndexStep place i found j)
    (h : i.Mutual) (ho : j.owner? key = some name) :
    (place.change.element = .createIndex ∧ found = [] ∧ place.change.indexName = name ∧
        indexKey place.change = key) ∨
      i.owner? key = some name ∧ ¬ place.change.DropsIndex name ∧
        ¬ ((place.change.element = .createIndex ∧ found = []) ∧ place.change.indexName = name) := by
  cases hs with
  | reported owner element owned =>
    exact .inr ⟨ho, fun hd => by simp [hd.1] at element, by simp⟩
  | reserved element free =>
    rw [Indexes.owner?_reserve] at ho
    split at ho
    · next hk => exact .inl ⟨element, rfl, Option.some.inj ho, hk.symm⟩
    · split at ho
      · cases ho
      · next hn =>
        refine .inr ⟨ho, fun hd => by simp [hd.1] at element, ?_⟩
        rintro ⟨-, rfl⟩
        exact hn ((h _ _).mpr ho)
  | released name' drops =>
    rw [Indexes.owner?_release] at ho
    split at ho
    · cases ho
    · next hn =>
      refine .inr ⟨ho, ?_, fun ha => by simp [drops.1] at ha⟩
      rintro ⟨-, hname⟩
      obtain rfl : name' = name := Option.some.inj (drops.2.symm.trans hname)
      exact hn ((h _ _).mpr ho)
  | kept creates drops => exact .inr ⟨ho, drops name, fun ha => creates ha.1.1⟩

/-! ## Runs of changes -/

theorem nodup_rememberedAfter (run : List ChangePlace) :
    (rememberedAfter run).indexes.keys.domain.Nodup := by
  induction run using List.reverseRecOn with
  | nil => exact List.nodup_nil
  | append_singleton run place ih =>
    rw [rememberedAfter_append]
    exact (indexStep_duplicatedIndex place _).keeps_nodup ih

theorem keepsIndex_append : ∀ {run : List ChangePlace} {memory : Memory},
    KeepsIndex name memory run → ¬ place.change.DropsIndex name →
    ¬ (Accepted place (rememberedFrom memory run) ∧ place.change.indexName = name) →
      KeepsIndex name memory (run ++ [place])
  | [], memory, _, hd, ha => keepsIndex_cons.mpr ⟨⟨hd, ha⟩, keepsIndex_nil _ _⟩
  | first :: run, memory, hk, hd, ha => by
    obtain ⟨hfirst, hrest⟩ := keepsIndex_cons.mp hk
    exact keepsIndex_cons.mpr ⟨hfirst, keepsIndex_append hrest hd ha⟩

/-- What stands goes on standing unless it is dropped or its name taken. -/
theorem Stands.append (h : Stands run name key) (hd : ¬ place.change.DropsIndex name)
    (ha : ¬ (Accepted place (rememberedAfter run) ∧ place.change.indexName = name)) :
    Stands (run ++ [place]) name key := by
  obtain ⟨before, p, between, rfl, hp, hn, hk, hb⟩ := h
  have hm : rememberedAfter (before ++ p :: between) =
      rememberedFrom (rememberedAfter (before ++ [p])) between := by
    rw [List.append_cons]
    exact rememberedFrom_append .empty (before ++ [p]) between
  rw [hm] at ha
  exact ⟨before, p, between ++ [place], by simp, hp, hn, hk, keepsIndex_append hb hd ha⟩

theorem Stands.owner?_eq (h : Stands run name key) :
    (rememberedAfter run).indexes.owner? key = some name := by
  obtain ⟨before, p, between, rfl, hp, rfl, rfl, hb⟩ := h
  rw [List.append_cons, rememberedAfter, rememberedFrom_append]
  refine owner?_rememberedFrom between (mutual_rememberedAfter (before ++ [p])) ?_ hb
  change (rememberedAfter (before ++ [p])).indexes.owner? (indexKey p.change) = _
  rw [rememberedAfter_append, hp.indexes_eq, Indexes.owner?_reserve, if_pos rfl]

theorem owner?_rememberedAfter_iff (run : List ChangePlace) (name key : String) :
    (rememberedAfter run).indexes.owner? key = some name ↔ Stands run name key := by
  refine ⟨?_, Stands.owner?_eq⟩
  induction run using List.reverseRecOn with
  | nil =>
    intro ho
    simp [rememberedAfter, rememberedFrom, Memory.empty, Indexes.empty, Indexes.owner?] at ho
  | append_singleton run q ih =>
    intro ho
    rw [rememberedAfter_append] at ho
    rcases (indexStep_duplicatedIndex q (rememberedAfter run)).owner?_eq
      (mutual_rememberedAfter run) ho with ⟨he, hf, rfl, rfl⟩ | ⟨ho, hd, ha⟩
    · exact ⟨run, q, [], rfl, ⟨he, hf⟩, rfl, rfl, keepsIndex_nil _ _⟩
    · exact (ih ho).append hd ha

theorem duplicatedIndex_eq_iff {owner : String} (he : place.change.element = .createIndex) :
    (duplicatedIndex place memory).1 = [duplicateIssue place owner] ↔
      memory.indexes.owner? (indexKey place.change) = some owner := by
  refine ⟨fun h => ?_, duplicatedIndex_of_owner? he⟩
  cases ho : memory.indexes.owner? (indexKey place.change) with
  | none => simp [duplicatedIndex, he, ho] at h
  | some other =>
    rw [duplicatedIndex_of_owner? he ho] at h
    simpa [duplicateIssue, Issue.ofChange, Issue.ofElement, Issue.ofSet, Issue.ofChangelog] using h

theorem accepted_iff (he : place.change.element = .createIndex) :
    Accepted place memory ↔ memory.indexes.owner? (indexKey place.change) = none := by
  refine ⟨fun h => ?_, fun h => ⟨he, by simp [duplicatedIndex, he, h]⟩⟩
  cases ho : memory.indexes.owner? (indexKey place.change) with
  | none => rfl
  | some owner => exact absurd ((duplicatedIndex_of_owner? he ho).symm.trans h.2) (by simp)

/-- A new index is reported, naming another one, exactly if that one stands on its key, and accepted
exactly if none does.  At any time names and keys are in pairs, as many names as keys with an
owner. -/
theorem duplicatedIndex_iff_stands (run : List ChangePlace) {q : ChangePlace}
    (he : q.change.element = .createIndex) :
    (∀ m, (duplicatedIndex q (rememberedAfter run)).1 = [duplicateIssue q m] ↔
        Stands run m (indexKey q.change)) ∧
      (Accepted q (rememberedAfter run) ↔ ∀ m, ¬ Stands run m (indexKey q.change)) ∧
      (rememberedAfter run).indexes.Mutual ∧
      {key | ∃ name, (rememberedAfter run).indexes.owner? key = some name}.encard =
        (rememberedAfter run).indexes.size := by
  have hm := mutual_rememberedAfter run
  refine ⟨fun m => ?_, ?_, hm, hm.encard_owned (nodup_rememberedAfter run)⟩
  · rw [duplicatedIndex_eq_iff he, owner?_rememberedAfter_iff]
  · simp only [accepted_iff he, Option.eq_none_iff_forall_ne_some, ne_eq,
      owner?_rememberedAfter_iff]

/-- An index without a name stands under the common one until another without a name is accepted. -/
theorem stands_until_name_taken :
    let nameless (columns : List String) := ChangePlace.alone
      (.ofTexts .createIndex [(.tableName, "t")] (columns.map NestedColumn.ofName))
    let run := [nameless ["a", "b"], .alone (.ofIndex "i" "t" ["b"]), nameless ["b"]]
    let q := ChangePlace.alone (.ofIndex "j" "t" ["b", "a", "b"])
    q.change.element = .createIndex ∧ Stands run "null" (indexKey q.change) ∧
      ∀ m, ¬ Stands (run ++ [nameless ["c"]]) m (indexKey q.change) := by
  intro nameless run q
  have he : q.change.element = .createIndex := rfl
  have hr : (duplicatedIndex q (rememberedAfter run)).1 = [duplicateIssue q "null"] := by decide
  have ha : Accepted q (rememberedAfter (run ++ [nameless ["c"]])) := by decide
  exact ⟨he, ((duplicatedIndex_iff_stands run he).1 "null").mp hr,
    (duplicatedIndex_iff_stands _ he).2.1.mp ha⟩

end MigrationAudit.Check
