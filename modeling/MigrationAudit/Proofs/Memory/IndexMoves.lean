import Mathlib.Data.List.Induction
import MigrationAudit.Proofs.Memory.Indexes

/-!
# Moves on the known indexes

Names take keys and give them up in any order.  A name has the key that its last move took
(`Indexes.key?_after_iff`), and whoever owns a key has it (`Indexes.key?_of_owner?_after`).  The
converse depends on the moves: a name that takes the key of another one becomes its owner, but the
other one goes on having it.  So names and keys stay in pairs exactly if no name takes a key that
another name has.
-/

namespace MigrationAudit.Indexes

/-- What a name may do: take a key, or give up the one it has. -/
inductive Move where
  | reserve (name key : String)
  | release (name : String)
  deriving DecidableEq, Repr

/-- The name that moves. -/
def Move.name : Move → String
  | reserve name _ => name
  | release name => name

def apply (i : Indexes) : Move → Indexes
  | .reserve name key => i.reserve name key
  | .release name => i.release name

/-- The indexes known after moves, none being known at first. -/
def after (moves : List Move) : Indexes := moves.foldl apply empty

/-- The last move of the name took the key. -/
def Holds (moves : List Move) (name key : String) : Prop :=
  ∃ before later, moves = before ++ .reserve name key :: later ∧ ∀ m ∈ later, m.name ≠ name

variable {moves : List Move} {m : Move} {name key : String}

theorem after_append (moves : List Move) (m : Move) :
    after (moves ++ [m]) = (after moves).apply m := by
  simp [after]

/-! ## What a name has -/

theorem not_holds_nil (name key : String) : ¬ Holds [] name key := by
  rintro ⟨before, later, h, -⟩
  simp at h

theorem holds_append_iff :
    Holds (moves ++ [m]) name key ↔
      m = .reserve name key ∨ m.name ≠ name ∧ Holds moves name key := by
  constructor
  · rintro ⟨before, later, h, hlater⟩
    induction later using List.reverseRecOn with
    | nil => exact .inl (List.cons.inj (List.append_inj' h rfl).2).1
    | append_singleton later last _ =>
      rw [← List.cons_append, ← List.append_assoc] at h
      obtain ⟨rfl, hm⟩ := List.append_inj' h rfl
      obtain rfl := (List.cons.inj hm).1
      exact .inr ⟨hlater m (by simp), before, later, rfl, fun x hx => hlater x (by simp [hx])⟩
  · rintro (rfl | ⟨hm, before, later, rfl, hlater⟩)
    · exact ⟨moves, [], rfl, by simp⟩
    · refine ⟨before, later ++ [m], by simp, fun x hx => ?_⟩
      rcases List.mem_append.mp hx with hx | hx
      · exact hlater x hx
      · rw [List.mem_singleton.mp hx]
        exact hm

theorem key?_after_iff (moves : List Move) (name key : String) :
    (after moves).key? name = some key ↔ Holds moves name key := by
  induction moves using List.reverseRecOn with
  | nil => exact iff_of_false (by simp [after, key?, empty]) (not_holds_nil name key)
  | append_singleton moves m ih =>
    rw [after_append, holds_append_iff]
    cases m with
    | reserve n k =>
      rw [apply, key?_reserve]
      by_cases hn : name = n
      · simp [hn, Move.name, eq_comm]
      · simp [hn, Ne.symm hn, Move.name, ih]
    | release n =>
      rw [apply, key?_release]
      by_cases hn : name = n
      · simp [hn, Move.name]
      · simp [hn, Ne.symm hn, Move.name, ih]

/-! ## Owners have their keys -/

theorem key?_of_owner?_after (moves : List Move) {name key : String}
    (h : (after moves).owner? key = some name) : (after moves).key? name = some key := by
  induction moves using List.reverseRecOn generalizing name key with
  | nil => simp [after, owner?, empty] at h
  | append_singleton moves m ih =>
    rw [after_append] at h ⊢
    cases m with
    | reserve n k =>
      rw [apply, owner?_reserve] at h
      rw [apply, key?_reserve]
      split at h
      · next hk =>
        obtain rfl := Option.some.inj h
        rw [if_pos rfl, hk]
      · split at h
        · cases h
        · next hn =>
          -- the name that moves cannot be the owner, for it had another key before
          have hne : name ≠ n := fun hname => hn (hname ▸ ih h)
          rw [if_neg hne, ih h]
    | release n =>
      rw [apply, owner?_release] at h
      rw [apply, key?_release]
      split at h
      · cases h
      · next hn =>
        have hne : name ≠ n := fun hname => hn (hname ▸ ih h)
        rw [if_neg hne, ih h]

/-! ## Pairs -/

/-- A name has the key that its last move took, and an owner of a key has it.  The names with their
keys are the owners of these keys all the time exactly if no name takes a key that another one
has. -/
theorem mutual_throughout_iff (moves : List Move) :
    (∀ name key, (after moves).key? name = some key ↔ Holds moves name key) ∧
      (∀ name key, (after moves).owner? key = some name → (after moves).key? name = some key) ∧
      ((∀ earlier, earlier <+: moves → (after earlier).Mutual) ↔
        ∀ earlier name key, earlier ++ [.reserve name key] <+: moves →
          ∀ other, Holds earlier other key → other = name) := by
  refine ⟨key?_after_iff moves, fun _ _ => key?_of_owner?_after moves, ?_, ?_⟩
  · intro h earlier name key hp other ho
    have hm := h earlier ((List.prefix_append _ _).trans hp)
    have hr := h _ hp
    rw [after_append, apply, hm.reserve_iff] at hr
    exact hr other ((key?_after_iff earlier other key).mpr ho)
  · intro h earlier
    induction earlier using List.reverseRecOn with
    | nil => exact fun _ => mutual_empty
    | append_singleton earlier m ih =>
      intro hp
      have hm := ih ((List.prefix_append _ _).trans hp)
      rw [after_append]
      cases m with
      | reserve name key =>
        rw [apply, hm.reserve_iff]
        exact fun other ho => h earlier name key hp other ((key?_after_iff earlier other key).mp ho)
      | release name => exact hm.release name

/-- Two names take one key: both have it, one owns it, and when the other one gives it up nobody
does. -/
theorem not_mutual_of_key_taken :
    let moves := [.reserve "i" "t-a", .reserve "j" "t-a"]
    (after moves).owner? "t-a" = some "j" ∧ (after moves).key? "i" = some "t-a" ∧
      ¬ (after moves).Mutual ∧
      (after (moves ++ [.release "i"])).key? "j" = some "t-a" ∧
      (after (moves ++ [.release "i"])).owner? "t-a" = none := by
  intro moves
  have hi : (after moves).key? "i" = some "t-a" := by decide
  have ho : (after moves).owner? "t-a" = some "j" := by decide
  refine ⟨ho, hi, fun hm => ?_, by decide, by decide⟩
  have howner := (hm "i" "t-a").mp hi
  rw [ho] at howner
  exact absurd howner (by decide)

end MigrationAudit.Indexes
