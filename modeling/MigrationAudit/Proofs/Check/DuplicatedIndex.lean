import MigrationAudit.Check.Repetition
import MigrationAudit.Proofs.Changelog.Plain
import MigrationAudit.Proofs.Memory.IndexKeys
import MigrationAudit.Proofs.Memory.Indexes

/-!
# Indexes on the same columns

Judging a change for duplicated indexes reports it, reserves its key, releases a name or does
nothing to the known indexes (`IndexStep`), so in every run names and keys stay in pairs
(`mutual_rememberedAfter`).  The key of an accepted index keeps its owner until this index is
dropped or another one is accepted under its name (`owner?_rememberedFrom`), and all this time an
index on the same columns of the table is reported.
-/

namespace MigrationAudit

namespace Change

/-- What an index is known by.  Those without a name are known by one and the same. -/
def indexName (c : Change) : String := (c.text? .indexName).getD "null"

def columnNames (c : Change) : List String := c.columns.filterMap (·.name?)

def DropsIndex (c : Change) (name : String) : Prop :=
  c.element = .dropIndex ∧ c.text? .indexName = some name

instance (c : Change) (name : String) : Decidable (c.DropsIndex name) :=
  inferInstanceAs (Decidable (_ ∧ _))

/-- Both create an index on the same columns of the same table, in whatever order. -/
def IndexesAlike (c d : Change) : Prop :=
  c.element = .createIndex ∧ d.element = .createIndex ∧ c.text? .tableName = d.text? .tableName ∧
    ∀ n, n ∈ c.columnNames ↔ n ∈ d.columnNames

theorem IndexesAlike.indexKey_eq {c d : Change} (h : c.IndexesAlike d) :
    Check.indexKey c = Check.indexKey d := by
  obtain ⟨-, -, ht, hn⟩ := h
  unfold Check.indexKey
  rw [ht]
  exact Indexes.keyOf_congr _ hn

end Change

namespace Check

variable {place : ChangePlace} {memory : Memory}

/-- The issue of an index whose columns another one has. -/
def duplicateIssue (place : ChangePlace) (owner : String) : Issue :=
  Issue.ofChange place (some Attribute.name.label)
    (.duplicatedIndex place.change.indexName owner)

/-- The change creates an index and is not reported. -/
def Accepted (place : ChangePlace) (memory : Memory) : Prop :=
  place.change.element = .createIndex ∧ (duplicatedIndex place memory).1 = []

instance (place : ChangePlace) (memory : Memory) : Decidable (Accepted place memory) :=
  inferInstanceAs (Decidable (_ ∧ _))

/-! ## One change -/

/-- What judging a change finds and does to the known indexes. -/
inductive IndexStep (place : ChangePlace) (i : Indexes) : List Issue → Indexes → Prop
  | reported (owner : String) (element : place.change.element = .createIndex)
      (owned : i.owner? (indexKey place.change) = some owner) :
      IndexStep place i [duplicateIssue place owner] i
  | reserved (element : place.change.element = .createIndex)
      (free : i.owner? (indexKey place.change) = none) :
      IndexStep place i [] (i.reserve place.change.indexName (indexKey place.change))
  | released (name : String) (drops : place.change.DropsIndex name) :
      IndexStep place i [] (i.release name)
  | kept (creates : place.change.element ≠ .createIndex)
      (drops : ∀ name, ¬ place.change.DropsIndex name) : IndexStep place i [] i

theorem indexStep_duplicatedIndex (place : ChangePlace) (memory : Memory) :
    IndexStep place memory.indexes (duplicatedIndex place memory).1
      (duplicatedIndex place memory).2.indexes := by
  unfold duplicatedIndex
  simp only []
  split
  · next he =>
    split
    · next owner ho => exact .reported owner he ho
    · next ho => exact .reserved he ho
  · next he =>
    split
    · next name hn => exact .released name ⟨he, hn⟩
    · next hn => exact .kept (by simp [he]) fun name hd => by simp [hd.2] at hn
  · next hc hd => exact .kept hc fun name h => hd h.1

theorem duplicatedIndex_of_owner? {owner : String} (he : place.change.element = .createIndex)
    (ho : memory.indexes.owner? (indexKey place.change) = some owner) :
    (duplicatedIndex place memory).1 = [duplicateIssue place owner] := by
  unfold duplicatedIndex
  simp only [he, ho]
  rfl

namespace IndexStep

variable {i j : Indexes} {found : List Issue}

theorem keeps_mutual (hs : IndexStep place i found j) (h : i.Mutual) : j.Mutual := by
  cases hs with
  | reported owner element owned => exact h
  | reserved element free => exact h.reserve free _
  | released name drops => exact h.release name
  | kept creates drops => exact h

/-- An owner stays one unless its name is dropped or taken by an accepted index. -/
theorem keeps_owner? {key name : String} (hs : IndexStep place i found j) (h : i.Mutual)
    (ho : i.owner? key = some name) (hd : ¬ place.change.DropsIndex name)
    (ha : ¬ ((place.change.element = .createIndex ∧ found = []) ∧
      place.change.indexName = name)) :
    j.owner? key = some name := by
  cases hs with
  | reported owner element owned => exact ho
  | reserved element free =>
    exact h.owner?_reserve_of_ne ho free fun hn => ha ⟨⟨element, rfl⟩, hn.symm⟩
  | released name' drops =>
    refine h.owner?_release_of_ne ho ?_
    rintro rfl
    exact hd drops
  | kept creates drops => exact ho

theorem eq_reserve (hs : IndexStep place i [] j) (he : place.change.element = .createIndex) :
    j = i.reserve place.change.indexName (indexKey place.change) := by
  cases hs with
  | reserved element free => rfl
  | released name drops => exact absurd (he.symm.trans drops.1) (by decide)
  | kept creates drops => exact absurd he creates

end IndexStep

theorem Accepted.indexes_eq (h : Accepted place memory) :
    (duplicatedIndex place memory).2.indexes =
      memory.indexes.reserve place.change.indexName (indexKey place.change) := by
  have hs := indexStep_duplicatedIndex place memory
  rw [h.2] at hs
  exact hs.eq_reserve h.1

/-! ## Runs of changes -/

/-- What is remembered after changes were judged one after the other. -/
def rememberedFrom (memory : Memory) (run : List ChangePlace) : Memory :=
  run.foldl (fun memory place => (duplicatedIndex place memory).2) memory

def rememberedAfter (run : List ChangePlace) : Memory := rememberedFrom .empty run

theorem rememberedFrom_append (memory : Memory) (run run' : List ChangePlace) :
    rememberedFrom memory (run ++ run') = rememberedFrom (rememberedFrom memory run) run' :=
  List.foldl_append

theorem mutual_rememberedFrom : ∀ (run : List ChangePlace) {memory : Memory},
    memory.indexes.Mutual → (rememberedFrom memory run).indexes.Mutual
  | [], _, h => h
  | place :: run, memory, h =>
    mutual_rememberedFrom run ((indexStep_duplicatedIndex place memory).keeps_mutual h)

theorem mutual_rememberedAfter (run : List ChangePlace) : (rememberedAfter run).indexes.Mutual :=
  mutual_rememberedFrom run Indexes.mutual_empty

/-- The run neither drops the index of the given name nor accepts another one under it. -/
def KeepsIndex (name : String) (memory : Memory) (run : List ChangePlace) : Prop :=
  ∀ earlier place, earlier ++ [place] <+: run → ¬ place.change.DropsIndex name ∧
    ¬ (Accepted place (rememberedFrom memory earlier) ∧ place.change.indexName = name)

theorem keepsIndex_nil (name : String) (memory : Memory) : KeepsIndex name memory [] := by
  intro earlier place h
  simp at h

theorem keepsIndex_cons {name : String} {run : List ChangePlace} :
    KeepsIndex name memory (place :: run) ↔ (¬ place.change.DropsIndex name ∧
      ¬ (Accepted place memory ∧ place.change.indexName = name)) ∧
        KeepsIndex name (duplicatedIndex place memory).2 run := by
  constructor
  · intro h
    refine ⟨h [] place (by simp), fun earlier place' hp => ?_⟩
    exact h (place :: earlier) place' (by simpa using hp)
  · rintro ⟨hp, hr⟩ earlier place' h
    cases earlier with
    | nil =>
      obtain rfl : place' = place := by simpa using h
      exact hp
    | cons first earlier =>
      obtain ⟨rfl, h'⟩ : first = place ∧ earlier ++ [place'] <+: run := by simpa using h
      exact hr earlier place' h'

theorem owner?_rememberedFrom {key name : String} : ∀ (run : List ChangePlace) {memory : Memory},
    memory.indexes.Mutual → memory.indexes.owner? key = some name → KeepsIndex name memory run →
      (rememberedFrom memory run).indexes.owner? key = some name
  | [], _, _, ho, _ => ho
  | place :: run, memory, h, ho, hk => by
    obtain ⟨⟨hd, ha⟩, hr⟩ := keepsIndex_cons.mp hk
    have hs := indexStep_duplicatedIndex place memory
    exact owner?_rememberedFrom run (hs.keeps_mutual h) (hs.keeps_owner? h ho hd ha) hr

/-- After an index was accepted, another one on the same columns of its table is reported, naming
it, as long as it has not been dropped and no other one was accepted under its name. -/
theorem duplicatedIndex_of_accepted {before between : List ChangePlace} {p q : ChangePlace}
    (hpq : p.change.IndexesAlike q.change) (hp : Accepted p (rememberedAfter before))
    (hk : KeepsIndex p.change.indexName (rememberedAfter (before ++ [p])) between) :
    (duplicatedIndex q (rememberedAfter (before ++ p :: between))).1 =
      [duplicateIssue q p.change.indexName] := by
  have hm := mutual_rememberedAfter (before ++ [p])
  have ho : (rememberedAfter (before ++ [p])).indexes.owner? (indexKey p.change) =
      some p.change.indexName := by
    have hr : rememberedAfter (before ++ [p]) = (duplicatedIndex p (rememberedAfter before)).2 :=
      rememberedFrom_append .empty before [p]
    rw [hr, hp.indexes_eq, Indexes.owner?_reserve, if_pos rfl]
  have hb : rememberedAfter (before ++ p :: between) =
      rememberedFrom (rememberedAfter (before ++ [p])) between := by
    rw [List.append_cons]
    exact rememberedFrom_append .empty (before ++ [p]) between
  refine duplicatedIndex_of_owner? hpq.2.1 ?_
  rw [hb, ← hpq.indexKey_eq]
  exact owner?_rememberedFrom between hm ho hk

/-- The order of the columns does not matter, nor do other indexes that come and go. -/
theorem duplicatedIndex_of_columns_in_other_order :
    let p := ChangePlace.alone (.ofIndex "i" "t" ["a", "b"])
    let r := ChangePlace.alone (.ofIndex "k" "t" ["b"])
    let s := ChangePlace.alone (.ofTexts .dropIndex [(.indexName, "k")] [])
    let q := ChangePlace.alone (.ofIndex "j" "t" ["b", "a"])
    p.change.IndexesAlike q.change ∧ Accepted p (rememberedAfter []) ∧
      KeepsIndex "i" (rememberedAfter ([] ++ [p])) [r, s] ∧
      (duplicatedIndex q (rememberedAfter ([] ++ p :: [r, s]))).1 = [duplicateIssue q "i"] := by
  intro p r s q
  have hpq : p.change.IndexesAlike q.change := by
    refine ⟨by decide, by decide, by decide, fun n => ?_⟩
    show n ∈ ["a", "b"] ↔ n ∈ ["b", "a"]
    simp [or_comm]
  have hp : Accepted p (rememberedAfter []) := by decide
  have hk : KeepsIndex "i" (rememberedAfter ([] ++ [p])) [r, s] := by
    rw [keepsIndex_cons, keepsIndex_cons]
    exact ⟨by decide, by decide, keepsIndex_nil _ _⟩
  exact ⟨hpq, hp, hk, duplicatedIndex_of_accepted hpq hp hk⟩

/-- An index is accepted although one on the same columns was accepted and never dropped, because
another one was accepted under the name of the first. -/
theorem duplicatedIndex_of_name_taken :
    let p := ChangePlace.alone (.ofIndex "i" "t" ["a"])
    let r := ChangePlace.alone (.ofIndex "i" "t" ["b"])
    let q := ChangePlace.alone (.ofIndex "j" "t" ["a"])
    p.change.IndexesAlike q.change ∧ Accepted p (rememberedAfter []) ∧
      ¬ r.change.DropsIndex "i" ∧ Accepted q (rememberedAfter [p, r]) :=
  ⟨⟨by decide, by decide, by decide, fun _ => Iff.rfl⟩, by decide, by decide, by decide⟩

end Check

end MigrationAudit
