import Mathlib.Data.List.Basic
import Mathlib.Data.String.Basic
import MigrationAudit.Text.Case
import MigrationAudit.Text.Pieces

/-!
# Upper case and marks

Blanks and parentheses are marks: the upper case of a mark is the mark itself, and no mark occurs in
the upper case of any other character.  So it does not matter whether a text is trimmed
(`trimChars_upperChars`) or cut at a parenthesis (`splitAtFirst?_upperChars`) before or after it is
put in upper case.
-/

namespace MigrationAudit.Text

/-- The first and the last of adjacent characters that are blank or a parenthesis. -/
def markRanges : List (Nat × Nat) :=
  [(0x9, 0xd), (0x20, 0x20), (0x28, 0x29), (0x85, 0x85), (0xa0, 0xa0), (0x1680, 0x1680),
   (0x2000, 0x200a), (0x2028, 0x2029), (0x202f, 0x202f), (0x205f, 0x205f), (0x3000, 0x3000)]

def IsMark (n : Nat) : Prop := ∃ m ∈ markRanges, m.1 ≤ n ∧ n ≤ m.2

instance (n : Nat) : Decidable (IsMark n) := inferInstanceAs (Decidable (∃ m ∈ _, _))

theorem isMark_of_isBlank {c : Char} (h : isBlank c = true) : IsMark c.toNat := by
  simp only [isBlank, Bool.or_eq_true, Bool.and_eq_true, decide_eq_true_eq, beq_iff_eq] at h
  simp only [IsMark, markRanges, List.mem_cons, List.not_mem_nil, or_false, exists_eq_or_imp,
    exists_eq_left]
  omega

/-- The run moves no mark, and moves nothing to a mark. -/
def CaseRun.Avoids (r : CaseRun) (m : Nat × Nat) : Prop :=
  (r.last < m.1 ∨ m.2 < r.first) ∧ (r.last + r.shift < m.1 ∨ m.2 < r.first + r.shift)

instance (r : CaseRun) (m : Nat × Nat) : Decidable (r.Avoids m) :=
  inferInstanceAs (Decidable (_ ∧ _))

theorem upperRuns_avoid : ∀ r ∈ upperRuns, ∀ m ∈ markRanges, r.Avoids m := by
  decide +kernel

theorem upperSequences_avoid :
    ∀ p ∈ upperSequences, ¬ IsMark p.1 ∧ p.2 ≠ [] ∧ ∀ n ∈ p.2, ¬ IsMark n := by
  decide +kernel

theorem shifted?_eq_some {n k : Nat} : ∀ {rs : List CaseRun}, shifted? n rs = some k →
    ∃ r ∈ rs, r.first ≤ n ∧ n ≤ r.last ∧ (k : Int) = max 0 (n + r.shift)
  | [], h => by simp [shifted?] at h
  | r :: rs, h => by
    unfold shifted? at h
    split at h
    · simp at h
    · split at h
      · next hn hr =>
        simp only [Bool.and_eq_true, decide_eq_true_eq] at hr
        obtain rfl := Option.some.inj h
        exact ⟨r, List.mem_cons_self, not_lt.mp hn, hr.1, by omega⟩
      · obtain ⟨r', hr', h'⟩ := shifted?_eq_some h
        exact ⟨r', List.mem_cons_of_mem r hr', h'⟩

theorem not_isMark_of_shifted? {n k : Nat} (h : shifted? n upperRuns = some k) :
    ¬ IsMark n ∧ ¬ IsMark k := by
  obtain ⟨r, hr, hfirst, hlast, hk⟩ := shifted?_eq_some h
  have positive : ∀ m ∈ markRanges, 0 < m.1 := by decide
  constructor
  · rintro ⟨m, hm, hn⟩
    have ha := (upperRuns_avoid r hr m hm).1
    omega
  · rintro ⟨m, hm, hn⟩
    have ha := (upperRuns_avoid r hr m hm).2
    have hp := positive m hm
    omega

theorem not_isMark_ofNat {n : Nat} (h : ¬ IsMark n) : ¬ IsMark (Char.ofNat n).toNat := by
  by_cases hv : n.isValidChar
  · rw [Char.ofNat, dif_pos hv]
    exact h
  · rw [Char.ofNat, dif_neg hv]
    decide

theorem upperChar_of_isMark {c : Char} (h : IsMark c.toNat) : upperChar c = [c] := by
  unfold upperChar caseMapping
  split
  · next hs => exact absurd h (not_isMark_of_shifted? hs).1
  · split
    · next ns hl =>
      obtain ⟨l₁, l₂, hl, -⟩ := List.lookup_eq_some_iff.mp hl
      have hmem : (c.toNat, ns) ∈ upperSequences := by simp [hl]
      exact absurd h (upperSequences_avoid _ hmem).1
    · rfl

theorem upperChar_of_not_isMark {c : Char} (h : ¬ IsMark c.toNat) :
    upperChar c ≠ [] ∧ ∀ d ∈ upperChar c, ¬ IsMark d.toNat := by
  unfold upperChar caseMapping
  split
  · next hs => simpa using not_isMark_ofNat (not_isMark_of_shifted? hs).2
  · split
    · next ns hl =>
      obtain ⟨l₁, l₂, hl, -⟩ := List.lookup_eq_some_iff.mp hl
      have hmem : (c.toNat, ns) ∈ upperSequences := by simp [hl]
      obtain ⟨-, hne, hns⟩ := upperSequences_avoid _ hmem
      refine ⟨by simpa using hne, fun d hd => ?_⟩
      obtain ⟨n, hn, rfl⟩ := List.mem_map.mp hd
      exact not_isMark_ofNat (hns n hn)
    · simpa using h

/-! ## Cutting a text -/

/-- What the function puts for a character is not empty and, with respect to `p`, as the character
is. -/
def Respects (f : Char → List Char) (p : Char → Bool) : Prop :=
  ∀ c, f c ≠ [] ∧ ∀ d ∈ f c, p d = p c

section Cut

variable {f : Char → List Char} {p : Char → Bool}

theorem Respects.reverse (h : Respects f p) : Respects (List.reverse ∘ f) p := by
  intro c
  simpa using h c

theorem Respects.dropWhile_flatMap (h : Respects f p) : ∀ cs : List Char,
    (cs.flatMap f).dropWhile p = (cs.dropWhile p).flatMap f
  | [] => rfl
  | c :: cs => by
    have ih := h.dropWhile_flatMap cs
    obtain ⟨hne, hd⟩ := h c
    rw [List.flatMap_cons]
    by_cases hc : p c = true
    · rw [List.dropWhile_append_of_pos fun d hm => (hd d hm).trans hc, ih,
        List.dropWhile_cons_of_pos hc]
    · obtain ⟨d, ds, hf⟩ := List.exists_cons_of_ne_nil hne
      have hpd : ¬ p d = true := by
        rw [hd d (by simp [hf])]
        exact hc
      rw [List.dropWhile_cons_of_neg hc, List.flatMap_cons, hf, List.cons_append,
        List.dropWhile_cons_of_neg hpd]

theorem Respects.takeWhile_flatMap (h : Respects f p) : ∀ cs : List Char,
    (cs.flatMap f).takeWhile p = (cs.takeWhile p).flatMap f
  | [] => rfl
  | c :: cs => by
    have ih := h.takeWhile_flatMap cs
    obtain ⟨hne, hd⟩ := h c
    rw [List.flatMap_cons]
    by_cases hc : p c = true
    · rw [List.takeWhile_append_of_pos fun d hm => (hd d hm).trans hc, ih,
        List.takeWhile_cons_of_pos hc, List.flatMap_cons]
    · obtain ⟨d, ds, hf⟩ := List.exists_cons_of_ne_nil hne
      have hpd : ¬ p d = true := by
        rw [hd d (by simp [hf])]
        exact hc
      rw [List.takeWhile_cons_of_neg hc, hf, List.cons_append, List.takeWhile_cons_of_neg hpd]
      rfl

end Cut

theorem respects_upperChar {p : Char → Bool}
    (hp : ∀ c d, ¬ IsMark c.toNat → ¬ IsMark d.toNat → p c = p d) : Respects upperChar p := by
  intro c
  by_cases hc : IsMark c.toNat
  · simp [upperChar_of_isMark hc]
  · obtain ⟨hne, hd⟩ := upperChar_of_not_isMark hc
    exact ⟨hne, fun d hm => hp d c (hd d hm) hc⟩

theorem respects_isBlank : Respects upperChar isBlank :=
  respects_upperChar fun c d hc hd => by
    rw [Bool.eq_false_iff.mpr fun h => hc (isMark_of_isBlank h),
      Bool.eq_false_iff.mpr fun h => hd (isMark_of_isBlank h)]

theorem respects_ne {m : Char} (hm : IsMark m.toNat) : Respects upperChar (· ≠ m) :=
  respects_upperChar fun c d hc hd => by
    have hne : ∀ {e : Char}, ¬ IsMark e.toNat → e ≠ m := fun he h => he (h ▸ hm)
    simp [hne hc, hne hd]

theorem upper_eq_empty_iff {s : String} : upper s = "" ↔ s = "" := by
  simp only [← String.toList_inj, upper, String.toList_ofList]
  cases s.toList with
  | nil => simp
  | cons c cs => simp [upperChars, (respects_isBlank c).1]

theorem trimChars_upperChars (cs : List Char) :
    trimChars (upperChars cs) = upperChars (trimChars cs) := by
  unfold trimChars dropTrailingBlank dropLeadingBlank upperChars
  rw [respects_isBlank.dropWhile_flatMap, List.reverse_flatMap,
    respects_isBlank.reverse.dropWhile_flatMap, List.reverse_flatMap]
  simp [Function.comp_def]

theorem splitAtFirst?_upperChars {m : Char} (hm : IsMark m.toNat) (cs : List Char) :
    splitAtFirst? m (upperChars cs) =
      (splitAtFirst? m cs).map fun p => (upperChars p.1, upperChars p.2) := by
  unfold splitAtFirst? upperChars
  rw [(respects_ne hm).dropWhile_flatMap, (respects_ne hm).takeWhile_flatMap]
  cases hd : cs.dropWhile (· ≠ m) with
  | nil => rfl
  | cons c rest =>
    obtain rfl : c = m := by
      have hhead := List.head?_dropWhile_not (fun c => decide (c ≠ m)) cs
      rw [hd] at hhead
      simpa using hhead
    simp [upperChar_of_isMark hm]

theorem mem_upperChars_iff {m : Char} (hm : IsMark m.toNat) {cs : List Char} :
    m ∈ upperChars cs ↔ m ∈ cs := by
  rw [← not_iff_not, ← splitAtFirst?_eq_none_iff, ← splitAtFirst?_eq_none_iff,
    splitAtFirst?_upperChars hm, Option.map_eq_none_iff]

end MigrationAudit.Text
