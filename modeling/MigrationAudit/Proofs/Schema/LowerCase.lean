import Mathlib.Data.List.Induction
import MigrationAudit.Check.Naming
import MigrationAudit.Proofs.Schema.Origins

/-!
# Names in lower case

Changes that declare columns and name tables in lower case, and rename columns to names in lower
case, keep the names of columns in lower case.  A table can still be renamed to a name that is not:
the columns stored for it then bear that name until the table is renamed once more, since no change
that names the table in lower case reaches them (`Schema.lowerCase_replayAll_iff`).
-/

namespace MigrationAudit

open Text

/-- Every identity is that of a column, with the names of its table and its own in lower case. -/
def Store.LowerCase (s : Store) : Prop :=
  ∀ id ∈ s.keys, ∃ t n, id = .column t n ∧ lower t = t ∧ lower n = n

namespace Change

/-- The values of attributes that have to be in lower case are, and so are the names of columns that
the change declares. -/
structure NamesInLowerCase (c : Change) : Prop where
  texts : ∀ a ∈ Check.lowerCaseAttributes, ∀ s, c.text? a = some s → lower s = s
  declared : c.element = .createTable ∨ c.element = .addColumn → ∀ n ∈ c.nested, ∀ s,
    n.name? = some s → lower s = s

def RenamesTable (c : Change) (old new : String) : Prop :=
  c.element = .renameTable ∧ c.text? .oldTableName = some old ∧ c.text? .newTableName = some new

/-- The change renames a table with a stored column to `t`, which is not in lower case. -/
def Raises (c : Change) (s : Store) (t : String) : Prop :=
  lower t ≠ t ∧ ∃ old n, c.RenamesTable old t ∧ s.Knows old n

theorem renamed_of_renamesTable {c : Change} {old new : String} (h : c.RenamesTable old new)
    (n : String) : c.renamed (old, n) = (new, n) := by
  obtain ⟨he, ho, hn⟩ := h
  simp [renamed, he, ho, hn, tableRenamed]

/-- A change renames the table of an identity, or its column, or keeps it. -/
theorem renamed_cases (c : Change) (p : String × String) :
    (∃ new, c.RenamesTable p.1 new ∧ c.renamed p = (new, p.2)) ∨
      (∀ new, ¬ c.RenamesTable p.1 new) ∧
        ((∃ new, c.text? .newColumnName = some new ∧ c.renamed p = (p.1, new)) ∨
          c.renamed p = p) := by
  by_cases h : ∃ new, c.RenamesTable p.1 new
  · obtain ⟨new, hnew⟩ := h
    exact .inl ⟨new, hnew, renamed_of_renamesTable hnew p.2⟩
  refine .inr ⟨fun new hnew => h ⟨new, hnew⟩, ?_⟩
  unfold renamed
  split
  · next he =>
    split
    · next old new ho hn =>
      have hne : p.1 ≠ old := fun hp => h ⟨new, he, hp ▸ ho, hn⟩
      exact .inr (if_neg hne)
    · exact .inr rfl
  · split
    · next t old new _ _ hn =>
      unfold columnRenamed
      split
      · next hp => exact .inl ⟨new, hn, by rw [hp]⟩
      · exact .inr rfl
    · exact .inr rfl
  · exact .inr rfl

/-- An identity that is known stays known, as renamed, unless the change names its table. -/
theorem renamed_mem_knownAfter {c : Change} {p : String × String} {known : Finset (String × String)}
    (hp : p ∈ known) (ht : c.element = .renameTable ∨ c.text? .tableName ≠ some p.1) :
    c.renamed p ∈ c.knownAfter known := by
  unfold renamed knownAfter
  cases he : c.element with
  | createTable | addColumn =>
    cases c.text? .tableName with
    | none => exact hp
    | some t => exact Finset.mem_union_left _ hp
  | renameTable =>
    cases c.text? .oldTableName <;> cases c.text? .newTableName <;> try exact hp
    exact Finset.mem_image_of_mem _ hp
  | renameColumn =>
    cases c.text? .tableName <;> cases c.text? .oldColumnName <;>
      cases c.text? .newColumnName <;> try exact hp
    exact Finset.mem_image_of_mem _ hp
  | dropTable =>
    have hne := ht.resolve_left (by simp [he])
    cases htable : c.text? .tableName with
    | none => exact hp
    | some t => exact Finset.mem_filter.mpr ⟨hp, fun heq => hne (htable.trans (heq ▸ rfl))⟩
  | dropColumn =>
    have hne := ht.resolve_left (by simp [he])
    cases htable : c.text? .tableName with
    | none => exact hp
    | some t =>
      refine Finset.mem_sdiff.mpr ⟨hp, fun hmem => ?_⟩
      obtain ⟨n, -, rfl⟩ := List.mem_map.mp (List.mem_toFinset.mp hmem)
      exact hne htable
  | _ => exact hp

theorem NamesInLowerCase.table_ne {c : Change} (h : c.NamesInLowerCase) {t : String}
    (ht : lower t ≠ t) : c.text? .tableName ≠ some t :=
  fun htable => ht (h.texts .tableName (by decide) t htable)

end Change

/-! ## Runs of changes -/

namespace Schema

variable (naming : Naming)

/-- One of the changes renames a table with a stored column to `t`, which is not in lower case, and
no later one renames it. -/
def Raised (changes : List Change) (t : String) : Prop :=
  ∃ earlier c later, changes = earlier ++ c :: later ∧
    c.Raises (empty.replayAll naming earlier).store t ∧
    ∀ next ∈ later, ∀ new, ¬ next.RenamesTable t new

variable {naming} {changes : List Change} {t : String}

theorem Raised.append (h : Raised naming changes t) {c : Change}
    (hc : ∀ new, ¬ c.RenamesTable t new) : Raised naming (changes ++ [c]) t := by
  obtain ⟨earlier, raising, later, split, raises, hlater⟩ := h
  refine ⟨earlier, raising, later ++ [c], by simp [split], raises, fun next hnext => ?_⟩
  rcases List.mem_append.mp hnext with hnext | hnext
  · exact hlater next hnext
  · exact List.mem_singleton.mp hnext ▸ hc

variable (naming)

/-- A table that is not in lower case keeps some column as long as it is not renamed. -/
theorem Columnar.table_stays (ht : lower t ≠ t) : ∀ {later : List Change} {s : Schema},
    s.Columnar → (∀ c ∈ later, c.NamesInLowerCase) → (∀ c ∈ later, ∀ new, ¬ c.RenamesTable t new) →
      (∃ n, (t, n) ∈ s.pairs) → ∃ n, (t, n) ∈ (s.replayAll naming later).pairs
  | [], _, _, _, _, hn => hn
  | c :: later, s, h, hl, hr, ⟨n, hn⟩ => by
    have stays := Change.renamed_mem_knownAfter (List.mem_toFinset.mpr hn)
      (.inr ((hl c List.mem_cons_self).table_ne ht))
    rw [← h.mem_pairs_replay naming] at stays
    have hn' : ∃ n, (t, n) ∈ (s.replay naming c).1.pairs := by
      rcases c.renamed_cases (t, n) with ⟨new, hnew, -⟩ | ⟨-, ⟨new, -, hp⟩ | hp⟩
      · exact (hr c List.mem_cons_self new hnew).elim
      · exact ⟨new, hp ▸ stays⟩
      · exact ⟨n, hp ▸ stays⟩
    have ih := table_stays ht (h.replay naming c) (fun d hd => hl d (List.mem_cons_of_mem c hd))
      (fun d hd => hr d (List.mem_cons_of_mem c hd)) hn'
    exact ih

theorem exists_mem_pairs_of_raised (hc : ∀ c ∈ changes, c.NamesInLowerCase)
    (h : Raised naming changes t) : ∃ n, (t, n) ∈ (empty.replayAll naming changes).pairs := by
  obtain ⟨earlier, c, later, rfl, ⟨ht, old, n, hold, hn⟩, hlater⟩ := h
  have hcolumnar := columnar_empty.replayAll naming earlier
  rw [hcolumnar.knows_iff] at hn
  have hnew := Change.renamed_mem_knownAfter (List.mem_toFinset.mpr hn) (.inl hold.1)
  rw [Change.renamed_of_renamesTable hold, ← hcolumnar.mem_pairs_replay naming] at hnew
  rw [replayAll_append]
  exact (hcolumnar.replay naming c).table_stays naming ht (fun d hd => hc d (by simp [hd])) hlater
    ⟨n, hnew⟩

/-- Every column is in lower case, up to the name of a table that has been raised. -/
theorem lower_of_mem_replayAll (hc : ∀ c ∈ changes, c.NamesInLowerCase) :
    ∀ c ∈ (empty.replayAll naming changes).columns, lower c.name = c.name ∧
      (lower c.table = c.table ∨ Raised naming changes c.table) := by
  induction changes using List.reverseRecOn with
  | nil => exact nofun
  | append_singleton changes change ih =>
    have ih := ih fun c hmem => hc c (List.mem_append_left _ hmem)
    have named : change.NamesInLowerCase := hc change (by simp)
    have hcolumnar := columnar_empty.replayAll naming changes
    intro c hmem
    rw [replayAll_append] at hmem
    cases hcolumnar.origin_of_mem_replay naming change hmem with
    | declared element table nested name =>
      exact ⟨named.declared element _ nested _ name,
        .inl (named.texts .tableName (by decide) _ table)⟩
    | retyped element table column =>
      exact ⟨named.texts .columnName (by decide) _ column,
        .inl (named.texts .tableName (by decide) _ table)⟩
    | @kept b mem pair =>
      obtain ⟨hname, htable⟩ := ih b mem
      rcases change.renamed_cases b.pair with ⟨new, hnew, hp⟩ | ⟨hno, hp⟩
      · obtain ⟨rfl, hn⟩ := Prod.mk.inj (pair.trans hp)
        refine ⟨hn ▸ hname, ?_⟩
        -- the new name of a table is the one text that need not be in lower case
        by_cases hl : lower c.table = c.table
        · exact .inl hl
        · have known : (empty.replayAll naming changes).store.Knows b.table b.name :=
            hcolumnar.knows_iff.mpr (List.mem_map_of_mem mem)
          exact .inr ⟨changes, change, [], rfl, ⟨hl, b.table, b.name, hnew, known⟩, nofun⟩
      · rcases hp with ⟨new, hnew, hp⟩ | hp <;> obtain ⟨ht, hn⟩ := Prod.mk.inj (pair.trans hp)
        · rw [ht, hn]
          exact ⟨named.texts .newColumnName (by decide) _ hnew, htable.imp_right (·.append hno)⟩
        · rw [ht, hn]
          exact ⟨hname, htable.imp_right (·.append hno)⟩

theorem Columnar.lowerCase_iff {s : Schema} (h : s.Columnar) :
    s.store.LowerCase ↔ ∀ p ∈ s.pairs, lower p.1 = p.1 ∧ lower p.2 = p.2 := by
  rw [Store.LowerCase, h.keys_eq, List.forall_mem_map]
  refine forall₂_congr fun p _ => ⟨?_, fun hp => ⟨p.1, p.2, rfl, hp⟩⟩
  rintro ⟨t, n, hid, hp⟩
  obtain ⟨rfl, rfl⟩ := Identity.column.inj hid
  exact hp

/-- After changes with their names in lower case the identities are in lower case exactly if none of
the changes left a table under a name that is not. -/
theorem lowerCase_replayAll_iff (hc : ∀ c ∈ changes, c.NamesInLowerCase) :
    (empty.replayAll naming changes).store.LowerCase ↔ ∀ t, ¬ Raised naming changes t := by
  have h := columnar_empty.replayAll naming changes
  rw [h.lowerCase_iff]
  constructor
  · intro hl t ht
    obtain ⟨n, hn⟩ := exists_mem_pairs_of_raised naming hc ht
    obtain ⟨_, _, _, _, ⟨hne, _⟩, _⟩ := ht
    exact hne (hl _ hn).1
  · intro hno p hp
    obtain ⟨c, hmem, rfl⟩ := List.mem_map.mp hp
    obtain ⟨hname, htable⟩ := lower_of_mem_replayAll naming hc c hmem
    exact ⟨htable.resolve_right (hno c.table), hname⟩

end Schema

end MigrationAudit
