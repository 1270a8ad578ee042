import Mathlib.Data.List.Basic
import Mathlib.Data.String.Basic
import MigrationAudit.Proofs.Declaration

/-!
# Pieces and lengths

The pieces of a text are what the library splits a list into, and texts are joined as the library
joins them (`pieces_eq_splitOn`, `joinWith_eq_intercalate`).  Where a text is split once, the first
part is without separators (`splitAtFirst?_eq_some_iff`).  Names are never blank, so each has a
length, and a text without commas is one name or blank (`names_of_not_mem`).
-/

namespace MigrationAudit.Text

theorem splitAtFirst?_eq_some_iff {m : Char} {cs before after : List Char} :
    splitAtFirst? m cs = some (before, after) ↔ m ∉ before ∧ cs = before ++ m :: after := by
  constructor
  · intro h
    unfold splitAtFirst? at h
    have hnot := List.head?_dropWhile_not (· ≠ m) cs
    cases hd : cs.dropWhile (· ≠ m) with
    | nil =>
      rw [hd] at h
      cases h
    | cons d rest =>
      rw [hd] at h hnot
      simp only [Option.some.injEq, Prod.mk.injEq] at h
      obtain ⟨rfl, rfl⟩ := h
      have hm : d = m := by simpa using hnot
      refine ⟨fun hmem => ?_, ?_⟩
      · simpa using List.mem_takeWhile_imp hmem
      · rw [← hm, ← hd, hm, List.takeWhile_append_dropWhile]
  · rintro ⟨hm, rfl⟩
    have hall : ∀ c ∈ before, decide (c ≠ m) = true := by
      intro c hc
      simpa using fun hcm : c = m => hm (hcm ▸ hc)
    rw [splitAtFirst?, List.dropWhile_append_of_pos hall, List.takeWhile_append_of_pos hall]
    simp

theorem pieces_eq_splitOn (separator : Char) : ∀ cs : List Char,
    pieces separator cs = cs.splitOn separator
  | [] => by rw [pieces, List.splitOn_nil]
  | c :: cs => by
    have ih := pieces_eq_splitOn separator cs
    rw [List.splitOn_cons_eq_if_modifyHead, ← ih, pieces]
    by_cases h : c = separator
    · simp [h]
    · obtain ⟨p, ps, hp⟩ := List.exists_cons_of_ne_nil (pieces_ne_nil separator cs)
      simp [h, hp]

theorem joinWith_eq_intercalate (separator : String) : ∀ texts : List String,
    joinWith separator texts = separator.intercalate texts
  | [] => rfl
  | [s] => by rw [joinWith, String.intercalate_singleton]
  | s :: t :: texts => by
    rw [joinWith, joinWith_eq_intercalate separator (t :: texts), String.intercalate_cons_cons]

theorem joinWith_eq_empty_iff {separator : String} {texts : List String}
    (h : ∀ s ∈ texts, s ≠ "") : joinWith separator texts = "" ↔ texts = [] := by
  match texts with
  | [] => exact iff_of_true rfl rfl
  | [s] => exact iff_of_false (h s (List.mem_singleton_self s)) (List.cons_ne_nil s [])
  | s :: t :: texts =>
    refine iff_of_false (fun hjoined => ?_) (List.cons_ne_nil s _)
    rw [joinWith, String.append_eq_empty_iff, String.append_eq_empty_iff] at hjoined
    exact h s List.mem_cons_self hjoined.1.1

theorem unitsOfChar_pos (c : Char) : 0 < unitsOfChar c := by
  unfold unitsOfChar
  split <;> decide

theorem units_eq_zero_iff {s : String} : units s = 0 ↔ s = "" := by
  unfold units
  rw [← String.toList_inj]
  cases s.toList with
  | nil => simp
  | cons c cs =>
    have := unitsOfChar_pos c
    simp only [List.foldr_cons, reduceCtorEq, iff_false, String.toList_empty]
    omega

/-- Names have no blank edges, and something between them. -/
theorem trim_of_mem_names {s n : String} (h : n ∈ names s) : trim n = n ∧ n ≠ "" := by
  simp only [names, List.mem_filter, List.mem_map, decide_eq_true_eq] at h
  obtain ⟨⟨p, -, rfl⟩, hne⟩ := h
  exact ⟨by rw [trim, String.toList_ofList, trimChars_trimChars], hne⟩

theorem names_of_not_mem {s : String} (h : ',' ∉ s.toList) :
    names s = if trim s = "" then [] else [trim s] := by
  rw [names, pieces_eq_splitOn, List.splitOn_eq_singleton h, List.map_singleton, ← trim]
  by_cases hs : trim s = "" <;> simp [hs]

end MigrationAudit.Text
