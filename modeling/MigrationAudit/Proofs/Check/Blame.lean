import MigrationAudit.Check.Budget

/-!
# The column to blame

Sizes are added up from the first column on, so the columns behind the one that is blamed have no
part in it.  The column to blame is one at a position, the first with which the sizes exceed the
limit (`overflow?_eq_some_iff_blames`).
-/

namespace MigrationAudit.Check

open Storage

variable {limit total size i : Nat} {c d : Column} {cs before : List Column}

theorem overflow?_cons_of_ok (h : rowSize c = .ok size) (limit total : Nat) (cs : List Column) :
    overflow? limit total (c :: cs) =
      if limit < saturatingAdd total size then .ok (some c)
      else overflow? limit (saturatingAdd total size) cs := by
  rw [overflow?, h]
  rfl

/-- Where a sum can be told, so can the size of the first column. -/
theorem exists_rowSize_of_overflow? {blamed : Option Column}
    (h : overflow? limit total (c :: cs) = .ok blamed) : ∃ size, rowSize c = .ok size := by
  rw [overflow?] at h
  cases hc : rowSize c with
  | error failure =>
    rw [hc] at h
    cases h
  | ok size => exact ⟨size, rfl⟩

/-- Columns that keep the limit only move the start of the sum. -/
theorem overflow?_append_of_none : ∀ {before : List Column} {total : Nat},
    overflow? limit total before = .ok none →
      ∃ sum, ∀ after, overflow? limit total (before ++ after) = overflow? limit sum after
  | [], total, _ => ⟨total, fun _ => rfl⟩
  | c :: before, total, h => by
    obtain ⟨size, hc⟩ := exists_rowSize_of_overflow? h
    rw [overflow?_cons_of_ok hc] at h
    split at h
    · cases h
    · next hle =>
      obtain ⟨sum, hsum⟩ := overflow?_append_of_none h
      refine ⟨sum, fun after => ?_⟩
      rw [List.cons_append, overflow?_cons_of_ok hc, if_neg hle, hsum]

/-- Columns with which the sum has ended already hide those behind them. -/
theorem overflow?_append_of_ne_none (after : List Column) : ∀ {before : List Column} {total : Nat},
    overflow? limit total before ≠ .ok none →
      overflow? limit total (before ++ after) = overflow? limit total before
  | [], _, h => absurd rfl h
  | c :: before, total, h => by
    rw [List.cons_append]
    cases hc : rowSize c with
    | error failure => simp only [overflow?, hc, bind, Except.bind]
    | ok size =>
      rw [overflow?_cons_of_ok hc] at h
      rw [overflow?_cons_of_ok hc, overflow?_cons_of_ok hc]
      split
      · rfl
      · next hle =>
        rw [if_neg hle] at h
        exact overflow?_append_of_ne_none after h

/-- The column to blame is one of those that are added up. -/
theorem mem_of_overflow? : ∀ {cs : List Column} {total : Nat},
    overflow? limit total cs = .ok (some d) → d ∈ cs
  | [], _, h => by cases h
  | c :: cs, total, h => by
    obtain ⟨size, hc⟩ := exists_rowSize_of_overflow? h
    rw [overflow?_cons_of_ok hc] at h
    split at h
    · cases h
      exact List.mem_cons_self
    · exact List.mem_cons_of_mem _ (mem_of_overflow? h)

/-- If none of the columns before is blamed, then one of those behind them is. -/
theorem mem_of_overflow?_append {before after : List Column}
    (h : overflow? limit total (before ++ after) = .ok (some d))
    (hbefore : ∀ c, overflow? limit total before ≠ .ok (some c)) : d ∈ after := by
  by_cases hn : overflow? limit total before = .ok none
  · obtain ⟨sum, hsum⟩ := overflow?_append_of_none hn
    rw [hsum] at h
    exact mem_of_overflow? h
  · rw [overflow?_append_of_ne_none after hn] at h
    exact absurd h (hbefore d)

/-! ## Its position -/

/-- The column is at the position, and it is the first with which the sizes, added to `total`,
exceed the limit. -/
def Blames (limit total : Nat) (cs : List Column) (i : Nat) (c : Column) : Prop :=
  cs[i]? = some c ∧ overflow? limit total (cs.take i) = .ok none ∧
    overflow? limit total (cs.take (i + 1)) = .ok (some c)

theorem blames_zero_iff : Blames limit total (c :: cs) 0 d ↔
    c = d ∧ ∃ size, rowSize c = .ok size ∧ limit < saturatingAdd total size := by
  simp only [Blames, List.getElem?_cons_zero, Option.some.injEq, List.take_succ_cons,
    List.take_zero]
  constructor
  · rintro ⟨rfl, -, h⟩
    obtain ⟨size, hc⟩ := exists_rowSize_of_overflow? h
    rw [overflow?_cons_of_ok hc] at h
    split at h
    · next hlt => exact ⟨rfl, size, hc, hlt⟩
    · cases h
  · rintro ⟨rfl, size, hc, hlt⟩
    exact ⟨rfl, rfl, by rw [overflow?_cons_of_ok hc, if_pos hlt]⟩

theorem blames_succ_iff : Blames limit total (c :: cs) (i + 1) d ↔
    ∃ size, rowSize c = .ok size ∧ ¬ limit < saturatingAdd total size ∧
      Blames limit (saturatingAdd total size) cs i d := by
  simp only [Blames, List.getElem?_cons_succ, List.take_succ_cons]
  constructor
  · rintro ⟨hd, hnone, hsome⟩
    obtain ⟨size, hc⟩ := exists_rowSize_of_overflow? hnone
    rw [overflow?_cons_of_ok hc] at hnone hsome
    split at hnone
    · cases hnone
    · next hle =>
      rw [if_neg hle] at hsome
      exact ⟨size, hc, hle, hd, hnone, hsome⟩
  · rintro ⟨size, hc, hle, hd, hnone, hsome⟩
    rw [overflow?_cons_of_ok hc, overflow?_cons_of_ok hc, if_neg hle, if_neg hle]
    exact ⟨hd, hnone, hsome⟩

theorem overflow?_eq_some_iff_blames : ∀ {cs : List Column} {total : Nat},
    overflow? limit total cs = .ok (some d) ↔ ∃ i, Blames limit total cs i d
  | [], _ => iff_of_false nofun (by simp [Blames])
  | c :: cs, total => by
    constructor
    · intro h
      obtain ⟨size, hc⟩ := exists_rowSize_of_overflow? h
      rw [overflow?_cons_of_ok hc] at h
      split at h
      · next hlt =>
        cases h
        exact ⟨0, blames_zero_iff.mpr ⟨rfl, size, hc, hlt⟩⟩
      · next hle =>
        obtain ⟨i, hi⟩ := overflow?_eq_some_iff_blames.mp h
        exact ⟨i + 1, blames_succ_iff.mpr ⟨size, hc, hle, hi⟩⟩
    · rintro ⟨_ | i, hi⟩
      · obtain ⟨rfl, size, hc, hlt⟩ := blames_zero_iff.mp hi
        rw [overflow?_cons_of_ok hc, if_pos hlt]
      · obtain ⟨size, hc, hle, hi⟩ := blames_succ_iff.mp hi
        rw [overflow?_cons_of_ok hc, if_neg hle]
        exact overflow?_eq_some_iff_blames.mpr ⟨i, hi⟩

end MigrationAudit.Check
