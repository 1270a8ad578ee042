import Mathlib.Data.List.Basic
import MigrationAudit.Pattern.Basic

/-!
# What patterns match

A pattern matches the stretch of a text between two positions by its form: a repetition matches what
some number of steps reach, within its bounds (`Pattern.Matches`).  The steps of a repetition never
go back, so those that stand still can be left out (`Reaches.shorten`), and it is enough to follow as
many as the text is long: the ends that are listed are those of the stretches that are matched
(`Pattern.mem_ends_iff`).
-/

namespace MigrationAudit.Pattern

/-! ## Steps -/

/-- So many steps lead from the first position to the second. -/
def Reaches (step : Nat → Nat → Prop) : Nat → Nat → Nat → Prop
  | 0, i, j => j = i
  | n + 1, i, j => ∃ k, step i k ∧ Reaches step n k j

namespace Reaches

variable {step : Nat → Nat → Prop}

theorem append : ∀ {m n i k j : Nat}, Reaches step m i k → Reaches step n k j →
    Reaches step (m + n) i j
  | 0, n, i, k, j, h, h' => by
    obtain rfl : k = i := h
    rwa [Nat.zero_add]
  | m + 1, n, i, k, j, ⟨l, hl, h⟩, h' => by
    rw [Nat.add_right_comm]
    exact ⟨l, hl, append h h'⟩

theorem split : ∀ {m n i j : Nat}, Reaches step (m + n) i j →
    ∃ k, Reaches step m i k ∧ Reaches step n k j
  | 0, n, i, j, h => ⟨i, rfl, by rwa [Nat.zero_add] at h⟩
  | m + 1, n, i, j, h => by
    rw [Nat.add_right_comm] at h
    obtain ⟨l, hl, h⟩ := h
    obtain ⟨k, hk, h⟩ := split h
    exact ⟨k, ⟨l, hl, hk⟩, h⟩

variable {length : Nat} (hstep : ∀ i j, step i j → i ≤ j ∧ j ≤ max i length)

include hstep

theorem bounds : ∀ {n i j : Nat}, Reaches step n i j → i ≤ j ∧ j ≤ max i length
  | 0, i, j, h => by
    obtain rfl : j = i := h
    omega
  | n + 1, i, j, ⟨k, hk, h⟩ => by
    have := hstep i k hk
    have := bounds h
    omega

/-- Without the steps that stand still there are no more than positions in between. -/
theorem shorten : ∀ {n i j : Nat}, Reaches step n i j →
    ∃ m ≤ n, m ≤ j - i ∧ Reaches step m i j
  | 0, i, j, h => ⟨0, Nat.le_refl 0, Nat.zero_le _, h⟩
  | n + 1, i, j, ⟨k, hk, h⟩ => by
    obtain ⟨m, hmn, hmj, hm⟩ := shorten h
    -- a first step that stands still is left out, any other passes a position of its own
    rcases Nat.eq_or_lt_of_le (hstep i k hk).1 with rfl | hlt
    · exact ⟨m, Nat.le_succ_of_le hmn, hmj, hm⟩
    · have hkj : k ≤ j := (bounds hstep h).1
      exact ⟨m + 1, Nat.succ_le_succ hmn, by omega, k, hk, hm⟩

end Reaches

/-! ## Positions that are listed -/

theorem mem_join_iff {is js : List Nat} {i : Nat} : i ∈ join is js ↔ i ∈ is ∨ i ∈ js := by
  induction is with
  | nil => simp [join]
  | cons k is ih =>
    unfold join at ih
    simp [join, ih, or_assoc]

theorem mem_spread_iff {step : Nat → List Nat} {is : List Nat} {j : Nat} :
    j ∈ spread step is ↔ ∃ i ∈ is, j ∈ step i := by
  induction is with
  | nil => simp [spread]
  | cons k is ih =>
    unfold spread at ih
    simp [spread, mem_join_iff, ih]

variable {step : Nat → List Nat}

theorem mem_after_iff : ∀ {n : Nat} {is : List Nat} {j : Nat},
    j ∈ after step n is ↔ ∃ i ∈ is, Reaches (fun i j => j ∈ step i) n i j
  | 0, is, j => by simp [after, Reaches]
  | n + 1, is, j => by
    simp only [after, mem_after_iff (n := n), mem_spread_iff, Reaches]
    exact ⟨fun ⟨k, ⟨i, hi, hk⟩, h⟩ => ⟨i, hi, k, hk, h⟩,
      fun ⟨i, hi, k, hk, h⟩ => ⟨k, ⟨i, hi, hk⟩, h⟩⟩

theorem mem_within_iff : ∀ {n : Nat} {is : List Nat} {j : Nat},
    j ∈ within step n is ↔ ∃ m ≤ n, ∃ i ∈ is, Reaches (fun i j => j ∈ step i) m i j
  | 0, is, j => by simp [within, Reaches]
  | n + 1, is, j => by
    simp only [within, mem_within_iff (n := n), mem_join_iff, mem_spread_iff]
    constructor
    · rintro ⟨m, hm, k, hk | ⟨i, hi, hk⟩, h⟩
      · exact ⟨m, Nat.le_succ_of_le hm, k, hk, h⟩
      · exact ⟨m + 1, Nat.succ_le_succ hm, i, hi, k, hk, h⟩
    · rintro ⟨m, hm, i, hi, h⟩
      cases m with
      | zero => exact ⟨0, Nat.zero_le n, i, .inl hi, h⟩
      | succ m =>
        obtain ⟨k, hk, h⟩ := h
        exact ⟨m, Nat.le_of_succ_le_succ hm, k, .inr ⟨i, hi, hk⟩, h⟩

/-! ## Stretches that are matched -/

/-- Whether a stretch of the text, from the first position to before the second, is matched. -/
def Matches (text : List Char) : Pattern → Nat → Nat → Prop
  | empty, i, j => j = i
  | one s, i, j => j = i + 1 ∧ ∃ c, text[i]? = some c ∧ s.has c = true
  | edge e, i, j => j = i ∧ e.isBetween (charBefore text i) text[i]? = true
  | seq p q, i, j => ∃ k, p.Matches text i k ∧ q.Matches text k j
  | either p q, i, j => p.Matches text i j ∨ q.Matches text i j
  | repeated p least greatest, i, j =>
    ∃ n, least ≤ n ∧ (∀ m ∈ greatest, n ≤ max least m) ∧ Reaches (p.Matches text) n i j

variable {text : List Char}

/-- A stretch that is matched does not go back, nor beyond the end of the text. -/
theorem Matches.bounds {p : Pattern} : ∀ {i j : Nat}, p.Matches text i j →
    i ≤ j ∧ j ≤ max i text.length := by
  induction p with
  | empty =>
    intro i j h
    obtain rfl : j = i := h
    omega
  | one s =>
    rintro i j ⟨rfl, c, hc, -⟩
    have := (List.getElem?_eq_some_iff.mp hc).1
    omega
  | edge e =>
    rintro i j ⟨rfl, -⟩
    omega
  | seq p q ihp ihq =>
    rintro i j ⟨k, hp, hq⟩
    have := ihp hp
    have := ihq hq
    omega
  | either p q ihp ihq =>
    rintro i j (h | h)
    · exact ihp h
    · exact ihq h
  | repeated p least greatest ih =>
    rintro i j ⟨n, -, -, h⟩
    exact h.bounds fun _ _ => ih

/-- However often a pattern is repeated, the text is long enough for the repetitions that matter. -/
theorem exists_count_iff {p : Pattern} {least : Nat} {greatest : Option Nat} {i j : Nat} :
    (∃ n, least ≤ n ∧ (∀ m ∈ greatest, n ≤ max least m) ∧ Reaches (p.Matches text) n i j) ↔
      ∃ m ≤ greatest.elim (text.length + 1) fun g => min (g - least) (text.length + 1),
        ∃ k, Reaches (p.Matches text) least i k ∧ Reaches (p.Matches text) m k j := by
  constructor
  · rintro ⟨n, hleast, hgreatest, h⟩
    -- the steps that have to be made stay as they are, only those behind them are fewer
    obtain ⟨more, rfl⟩ := Nat.exists_eq_add_of_le hleast
    obtain ⟨k, hk, h⟩ := h.split
    obtain ⟨m, hmore, hlength, hm⟩ := h.shorten fun _ _ => Matches.bounds
    have := (h.bounds fun _ _ => Matches.bounds).2
    refine ⟨m, ?_, k, hk, hm⟩
    cases greatest with
    | none => simp only [Option.elim_none]; omega
    | some g =>
      have := hgreatest g rfl
      simp only [Option.elim_some]
      omega
  · rintro ⟨m, hm, k, hk, h⟩
    refine ⟨least + m, Nat.le_add_right _ _, ?_, hk.append h⟩
    rintro g rfl
    simp only [Option.elim_some] at hm
    omega

theorem mem_ends_iff {p : Pattern} : ∀ {i j : Nat}, j ∈ ends text p i ↔ p.Matches text i j := by
  induction p with
  | empty => simp [ends, Matches]
  | one s =>
    intro i j
    cases hc : text[i]? with
    | none => simp [ends, Matches, hc]
    | some c => by_cases hs : s.has c = true <;> simp [ends, Matches, hc, hs]
  | edge e =>
    intro i j
    by_cases h : e.isBetween (charBefore text i) text[i]? <;> simp [ends, Matches, h]
  | seq p q ihp ihq => simp [ends, Matches, mem_spread_iff, ihp, ihq]
  | either p q ihp ihq => simp [ends, Matches, mem_join_iff, ihp, ihq]
  | repeated p least greatest ih =>
    intro i j
    simp only [ends, Matches, exists_count_iff, mem_within_iff, mem_after_iff, ih,
      List.mem_singleton, exists_eq_left]

theorem isFoundIn_iff {p : Pattern} {text : String} :
    p.isFoundIn text = true ↔ ∃ i ≤ text.toList.length, ∃ j, p.Matches text.toList i j := by
  simp only [isFoundIn, List.any_eq_true, List.mem_range, Nat.lt_succ_iff, Bool.not_eq_true',
    List.isEmpty_eq_false_iff_exists_mem, mem_ends_iff]

/-- Behind the start of the text a pattern is looked for there alone. -/
theorem isFoundIn_textStart_iff {p : Pattern} {text : String} :
    (seq (edge .textStart) p).isFoundIn text = true ↔ ∃ j, p.Matches text.toList 0 j := by
  rw [isFoundIn_iff]
  constructor
  · rintro ⟨i, hi, j, k, ⟨rfl, hstart⟩, h⟩
    cases k with
    | zero => exact ⟨j, h⟩
    | succ k =>
      have inside : text.toList[k]? = some text.toList[k] := List.getElem?_eq_getElem hi
      simp [Edge.isBetween, charBefore, inside] at hstart
  · rintro ⟨j, h⟩
    exact ⟨0, Nat.zero_le _, j, 0, ⟨rfl, rfl⟩, h⟩

end MigrationAudit.Pattern
