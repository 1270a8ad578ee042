import Mathlib.Data.List.Nodup
import MigrationAudit.Proofs.Schema.Known

/-!
# Distinct identities

Declaring a column never stores an identity twice, but a rename stores columns under their new
identities without looking for those that are there.  So a change keeps the identities in a store
distinct exactly if it does not rename a column to an identity that is stored already
(`Schema.Columnar.nodup_keys_replay_iff`), and this decides about whole runs.
-/

namespace MigrationAudit

def Store.Knows (s : Store) (table column : String) : Prop := .column table column ∈ s.keys

/-- The change renames a stored column to another identity that is stored already. -/
def Change.Collides (c : Change) (s : Store) : Prop :=
  match c.element with
  | .renameTable => ∃ old new n, c.text? .oldTableName = some old ∧
      c.text? .newTableName = some new ∧ old ≠ new ∧ s.Knows old n ∧ s.Knows new n
  | .renameColumn => ∃ t old new, c.text? .tableName = some t ∧
      c.text? .oldColumnName = some old ∧ c.text? .newColumnName = some new ∧ old ≠ new ∧
      s.Knows t old ∧ s.Knows t new
  | _ => False

/-! ## Edits -/

section Pairs

variable {ps : List (String × String)}

/-- Moving some entries of a list keeps them distinct if no entry is moved onto one that stays. -/
theorem nodup_map_moved_iff {α : Type} {l : List α} {moved : α → Prop} [DecidablePred moved]
    {f : α → α} (h : l.Nodup) (hf : ∀ x y, moved x → moved y → f x = f y → x = y) :
    (l.map fun x => if moved x then f x else x).Nodup ↔
      ∀ x ∈ l, moved x → f x ∈ l → moved (f x) := by
  rw [List.nodup_map_iff_inj_on h]
  constructor
  · intro hinj x hx hm hfx
    by_contra hn
    have hxf := hinj x hx (f x) hfx (by rw [if_pos hm, if_neg hn])
    exact hn (hxf ▸ hm)
  · intro hno x hx y hy hxy
    by_cases hmx : moved x <;> by_cases hmy : moved y
    · rw [if_pos hmx, if_pos hmy] at hxy
      exact hf x y hmx hmy hxy
    · rw [if_pos hmx, if_neg hmy] at hxy
      subst hxy
      exact absurd (hno x hx hmx hy) hmy
    · rw [if_neg hmx, if_pos hmy] at hxy
      subst hxy
      exact absurd (hno y hy hmy hx) hmx
    · rwa [if_neg hmx, if_neg hmy] at hxy

theorem nodup_map_tableRenamed_iff (h : ps.Nodup) (old new : String) :
    (ps.map (tableRenamed old new)).Nodup ↔
      ¬ (old ≠ new ∧ ∃ n, (old, n) ∈ ps ∧ (new, n) ∈ ps) := by
  refine (nodup_map_moved_iff h ?_).trans ?_
  · rintro ⟨t, n⟩ ⟨t', n'⟩ rfl rfl hnn
    simpa using hnn
  · constructor
    · rintro hno ⟨hne, n, ho, hn⟩
      exact hne (hno (old, n) ho rfl hn).symm
    · rintro hno ⟨t, n⟩ ho rfl hn
      by_contra hne
      exact hno ⟨Ne.symm hne, n, ho, hn⟩

theorem nodup_map_columnRenamed_iff (h : ps.Nodup) (t old new : String) :
    (ps.map (columnRenamed t old new)).Nodup ↔
      ¬ (old ≠ new ∧ (t, old) ∈ ps ∧ (t, new) ∈ ps) := by
  refine (nodup_map_moved_iff h ?_).trans ?_
  · rintro x y rfl rfl -
    rfl
  · constructor
    · rintro hno ⟨hne, ho, hn⟩
      exact hne (Prod.mk.inj (hno _ ho rfl hn)).2.symm
    · rintro hno x ho rfl hn
      by_contra hne
      exact hno ⟨fun heq => hne (by rw [heq]), ho, hn⟩

namespace Edit

/-- The edits that can bring two columns under one identity. -/
def renames : Edit → Bool
  | .renameTable .. | .renameColumn .. => true
  | _ => false

theorem nodup_onPairs {e : Edit} (he : e.renames = false) (h : ps.Nodup) :
    (e.onPairs ps).Nodup := by
  cases e with
  | renameTable old new => simp [renames] at he
  | renameColumn t old new => simp [renames] at he
  | declare t n nullable declaration =>
    simp only [onPairs]
    split
    · exact h
    · rw [List.nodup_append]
      exact ⟨h, List.nodup_singleton _, fun p hp q hq => by
        rw [List.mem_singleton.mp hq]
        exact fun hpq => ‹(t, n) ∉ ps› (hpq ▸ hp)⟩
  | dropTable t => exact h.filter _
  | dropColumn t n => exact h.filter _
  | _ => exact h

theorem nodup_allOnPairs : ∀ {es : List Edit} {ps : List (String × String)},
    (∀ e ∈ es, e.renames = false) → ps.Nodup → (allOnPairs es ps).Nodup
  | [], _, _, h => h
  | e :: es, ps, hes, h => by
    have ih : (allOnPairs es (e.onPairs ps)).Nodup :=
      nodup_allOnPairs (fun f hf => hes f (List.mem_cons_of_mem e hf))
        (nodup_onPairs (hes e List.mem_cons_self) h)
    exact ih

end Edit

end Pairs

/-! ## Changes -/

namespace Change

open Edit

theorem renames_of_mem_columnScript {c : Change} (ht : c.element ≠ .renameTable)
    (hc : c.element ≠ .renameColumn) : ∀ e ∈ c.columnScript.edits, e.renames = false := by
  intro e he
  cases c.columnEdit_of_mem_columnScript e he with
  | renameTable element => exact absurd element ht
  | renameColumn element => exact absurd element hc
  | _ => rfl

end Change

/-! ## Runs of changes -/

namespace Schema

open Edit

variable {s : Schema}

theorem Columnar.knows_iff (h : s.Columnar) {t n : String} :
    s.store.Knows t n ↔ (t, n) ∈ s.pairs := by
  rw [Store.Knows, h.keys_eq]
  exact List.mem_map_of_injective Identity.ofPair_injective (a := (t, n))

theorem Columnar.nodup_keys_iff (h : s.Columnar) : s.store.keys.Nodup ↔ s.pairs.Nodup := by
  rw [h.keys_eq, List.nodup_map_iff Identity.ofPair_injective]

variable (naming : Naming)

theorem Columnar.nodup_keys_replay_iff (h : s.Columnar) (hn : s.store.keys.Nodup) (c : Change) :
    (s.replay naming c).1.store.keys.Nodup ↔ ¬ c.Collides s.store := by
  have h' := h.replay naming c
  rw [h'.nodup_keys_iff, h.pairs_replay, allOnPairs_script]
  have hp := h.nodup_keys_iff.mp hn
  have keep : c.element ≠ .renameTable → c.element ≠ .renameColumn →
      (allOnPairs c.columnScript.edits s.pairs).Nodup :=
    fun ht hc => nodup_allOnPairs (Change.renames_of_mem_columnScript ht hc) hp
  unfold Change.Collides
  simp only [h.knows_iff]
  cases he : c.element with
  | renameTable =>
    rw [Change.columnScript_renameTable he]
    cases c.text? .oldTableName with
    | none => simpa [allOnPairs] using hp
    | some old =>
      cases c.text? .newTableName with
      | none => simpa [allOnPairs] using hp
      | some new => simpa [allOnPairs, onPairs] using nodup_map_tableRenamed_iff hp old new
  | renameColumn =>
    rw [Change.columnScript_renameColumn he]
    cases c.text? .tableName with
    | none => simpa [allOnPairs] using hp
    | some t =>
      cases c.text? .oldColumnName with
      | none => simpa [allOnPairs] using hp
      | some old =>
        cases c.text? .newColumnName with
        | none => simpa [allOnPairs] using hp
        | some new => simpa [allOnPairs, onPairs] using nodup_map_columnRenamed_iff hp t old new
  | _ => exact iff_of_true (keep (by simp [he]) (by simp [he])) id

/-- The identities in the store are distinct after every change of a run exactly if no rename in the
run moves a column onto an identity that is stored already. -/
theorem nodup_keys_throughout_iff (changes : List Change) :
    (∀ earlier, earlier <+: changes → (empty.replayAll naming earlier).store.keys.Nodup) ↔
      ∀ earlier c, earlier ++ [c] <+: changes →
        ¬ c.Collides (empty.replayAll naming earlier).store := by
  have step : ∀ earlier c, (empty.replayAll naming earlier).store.keys.Nodup →
      ((empty.replayAll naming (earlier ++ [c])).store.keys.Nodup ↔
        ¬ c.Collides (empty.replayAll naming earlier).store) := by
    intro earlier c hn
    rw [replayAll_append]
    exact (columnar_empty.replayAll naming earlier).nodup_keys_replay_iff naming hn c
  constructor
  · intro h earlier c hc
    exact (step earlier c (h earlier ((List.prefix_append _ _).trans hc))).mp (h _ hc)
  · intro h earlier
    induction earlier using List.reverseRecOn with
    | nil => exact fun _ => List.nodup_nil
    | append_singleton earlier c ih =>
      intro hc
      exact (step earlier c (ih ((List.prefix_append _ _).trans hc))).mpr (h earlier c hc)

/-- A column renamed to the name of another one leaves two entries under one identity. -/
theorem keys_renamed_onto_known_not_nodup :
    ¬ (empty.replayAll (fun _ => "")
      [.ofTexts .createTable [(.tableName, "t")] [.ofName "a", .ofName "b"],
        .ofTexts .renameColumn [(.tableName, "t"), (.oldColumnName, "a"), (.newColumnName, "b")]
          []]).store.keys.Nodup := by
  decide

end Schema

end MigrationAudit
