import Mathlib.Data.List.DropRight
import Mathlib.Data.List.Induction
import MigrationAudit.Declaration
import MigrationAudit.Proofs.Text.Upper

/-!
# Edges and case of type declarations

The base of a declaration does not depend on its blank edges (`base_trim`), a parameter has none
(`trim_parameter`), and both are put in upper case with the declaration (`base_upper`,
`parameter_upper`).
-/

namespace MigrationAudit

namespace Text

theorem splitAtFirst?_cons_of_ne {m c : Char} (h : c ≠ m) (cs : List Char) :
    splitAtFirst? m (c :: cs) = (splitAtFirst? m cs).map fun p => (c :: p.1, p.2) := by
  unfold splitAtFirst?
  rw [List.dropWhile_cons_of_pos (by simpa using h), List.takeWhile_cons_of_pos (by simpa using h)]
  cases cs.dropWhile (· ≠ m) <;> rfl

theorem splitAtFirst?_append_of_ne {m c : Char} (h : c ≠ m) : ∀ cs : List Char,
    splitAtFirst? m (cs ++ [c]) = (splitAtFirst? m cs).map fun p => (p.1, p.2 ++ [c])
  | [] => by
    rw [List.nil_append, splitAtFirst?_cons_of_ne h]
    rfl
  | d :: cs => by
    by_cases hd : d = m
    · simp [splitAtFirst?, hd]
    · rw [List.cons_append, splitAtFirst?_cons_of_ne hd, splitAtFirst?_append_of_ne h cs,
        splitAtFirst?_cons_of_ne hd]
      cases splitAtFirst? m cs <;> rfl

theorem trimChars_cons_of_isBlank {c : Char} (h : isBlank c = true) (cs : List Char) :
    trimChars (c :: cs) = trimChars cs := by
  unfold trimChars dropLeadingBlank
  rw [List.dropWhile_cons_of_pos h]

theorem dropLeadingBlank_append (cs : List Char) {c : Char} (h : isBlank c = true) :
    dropLeadingBlank (cs ++ [c]) = dropLeadingBlank cs ++ [c] ∨
      dropLeadingBlank (cs ++ [c]) = [] ∧ dropLeadingBlank cs = [] := by
  induction cs with
  | nil => simp [dropLeadingBlank, h]
  | cons d cs ih =>
    by_cases hd : isBlank d = true
    · simpa [dropLeadingBlank, hd] using ih
    · simp [dropLeadingBlank, hd]

theorem trimChars_append_of_isBlank (cs : List Char) {c : Char} (h : isBlank c = true) :
    trimChars (cs ++ [c]) = trimChars cs := by
  unfold trimChars
  rcases dropLeadingBlank_append cs h with h' | ⟨h', h''⟩
  · rw [h', dropTrailingBlank, List.reverse_append, List.reverse_singleton, List.singleton_append,
      List.dropWhile_cons_of_pos h, dropTrailingBlank]
  · rw [h', h'']

theorem dropLeadingBlank_dropTrailingBlank {cs : List Char} (h : dropLeadingBlank cs = cs) :
    dropLeadingBlank (dropTrailingBlank cs) = dropTrailingBlank cs := by
  cases cs with
  | nil => rfl
  | cons c cs =>
    have hc : ¬ isBlank c = true := by
      simpa using List.dropWhile_eq_self_iff.mp h (Nat.zero_lt_succ _)
    rw [dropTrailingBlank, List.reverse_cons, List.dropWhile_append]
    split <;> simp [dropLeadingBlank, hc]

theorem trimChars_trimChars (cs : List Char) : trimChars (trimChars cs) = trimChars cs := by
  have hl : dropLeadingBlank (dropLeadingBlank cs) = dropLeadingBlank cs :=
    List.dropWhile_idempotent _ _
  have ht : dropTrailingBlank (dropTrailingBlank (dropLeadingBlank cs)) =
      dropTrailingBlank (dropLeadingBlank cs) := List.rdropWhile_idempotent _ _
  rw [trimChars, trimChars, dropLeadingBlank_dropTrailingBlank hl, ht]

theorem trim_trim (s : String) : trim (trim s) = trim s := by
  rw [trim, trim, String.toList_ofList, trimChars_trimChars]

theorem trim_eq_empty_iff {s : String} : trim s = "" ↔ ∀ c ∈ s.toList, isBlank c = true := by
  rw [← trimChars_eq_nil_iff, trim, ← String.toList_inj, String.toList_ofList]
  rfl

section Invariant

variable {α : Type} {f : List Char → α}

theorem dropLeadingBlank_invariant
    (hf : ∀ {c : Char}, isBlank c = true → ∀ cs, f (c :: cs) = f cs) : ∀ cs : List Char,
      f (dropLeadingBlank cs) = f cs
  | [] => rfl
  | c :: cs => by
    unfold dropLeadingBlank
    by_cases hc : isBlank c = true
    · rw [List.dropWhile_cons_of_pos hc, hf hc]
      exact dropLeadingBlank_invariant hf cs
    · rw [List.dropWhile_cons_of_neg hc]

theorem dropTrailingBlank_invariant
    (hf : ∀ cs, ∀ {c : Char}, isBlank c = true → f (cs ++ [c]) = f cs) (cs : List Char) :
    f (dropTrailingBlank cs) = f cs := by
  induction cs using List.reverseRecOn with
  | nil => rfl
  | append_singleton cs c ih =>
    unfold dropTrailingBlank at ih ⊢
    rw [List.reverse_append, List.reverse_singleton, List.singleton_append]
    by_cases hc : isBlank c = true
    · rw [List.dropWhile_cons_of_pos hc, ih, hf cs hc]
    · rw [List.dropWhile_cons_of_neg hc, List.reverse_cons, List.reverse_reverse]

/-- What does not change with a blank at either end does not change with trimming. -/
theorem trimChars_invariant (hcons : ∀ {c : Char}, isBlank c = true → ∀ cs, f (c :: cs) = f cs)
    (happend : ∀ cs, ∀ {c : Char}, isBlank c = true → f (cs ++ [c]) = f cs) (cs : List Char) :
    f (trimChars cs) = f cs := by
  rw [trimChars, dropTrailingBlank_invariant happend, dropLeadingBlank_invariant hcons]

end Invariant

end Text

namespace Declaration

open Text

/-! ## Blank edges -/

theorem trim_parameter (s : String) : trim (parameter s) = parameter s := by
  unfold trim parameter parameterChars
  rw [String.toList_ofList]
  split
  · rw [trimChars_trimChars]
  · rfl

theorem ne_of_isBlank {c : Char} (h : isBlank c = true) : c ≠ '(' ∧ c ≠ ')' := by
  constructor <;> rintro rfl <;> exact absurd h (by decide)

theorem parameterised?_cons_of_isBlank {c : Char} (h : isBlank c = true) (cs : List Char) :
    parameterised? (c :: cs) =
      (parameterised? cs).map fun p => (c :: p.1, p.2.1, p.2.2) := by
  obtain ⟨ho, hc⟩ := ne_of_isBlank h
  unfold parameterised?
  rw [splitAtFirst?_cons_of_ne ho]
  cases splitAtFirst? '(' cs with
  | none => rfl
  | some p =>
    simp only [Option.map_some, List.mem_cons, Ne.symm hc, false_or]
    split
    · rfl
    · cases splitAtFirst? ')' p.2 <;> rfl

theorem parameterised?_append_of_isBlank (cs : List Char) {c : Char} (h : isBlank c = true) :
    parameterised? (cs ++ [c]) =
      (parameterised? cs).map fun p => (p.1, p.2.1, p.2.2 ++ [c]) := by
  obtain ⟨ho, hc⟩ := ne_of_isBlank h
  unfold parameterised?
  rw [splitAtFirst?_append_of_ne ho]
  cases splitAtFirst? '(' cs with
  | none => rfl
  | some p =>
    simp only [Option.map_some]
    split
    · rfl
    · rw [splitAtFirst?_append_of_ne hc]
      cases splitAtFirst? ')' p.2 <;> rfl

theorem baseChars_cons_of_isBlank {c : Char} (h : isBlank c = true) (cs : List Char) :
    baseChars (c :: cs) = baseChars cs := by
  unfold baseChars
  rw [parameterised?_cons_of_isBlank h]
  cases parameterised? cs with
  | none => exact trimChars_cons_of_isBlank h cs
  | some p => exact trimChars_cons_of_isBlank h (p.1 ++ p.2.2)

theorem baseChars_append_of_isBlank (cs : List Char) {c : Char} (h : isBlank c = true) :
    baseChars (cs ++ [c]) = baseChars cs := by
  unfold baseChars
  rw [parameterised?_append_of_isBlank cs h]
  cases parameterised? cs with
  | none => exact trimChars_append_of_isBlank cs h
  | some p =>
    simp only [Option.map_some, ← List.append_assoc]
    exact trimChars_append_of_isBlank (p.1 ++ p.2.2) h

theorem base_trim (s : String) : base (trim s) = base s := by
  unfold base trim
  rw [String.toList_ofList,
    trimChars_invariant baseChars_cons_of_isBlank baseChars_append_of_isBlank]

/-! ## Case -/

theorem parameterised?_upperChars (cs : List Char) :
    parameterised? (upperChars cs) =
      (parameterised? cs).map fun p => (upperChars p.1, upperChars p.2.1, upperChars p.2.2) := by
  have ho : IsMark '('.toNat := by decide
  have hc : IsMark ')'.toNat := by decide
  unfold parameterised?
  rw [splitAtFirst?_upperChars ho]
  cases splitAtFirst? '(' cs with
  | none => rfl
  | some p =>
    simp only [Option.map_some, mem_upperChars_iff hc]
    split
    · rfl
    · rw [splitAtFirst?_upperChars hc]
      cases splitAtFirst? ')' p.2 <;> rfl

theorem base_upper (s : String) : base (upper s) = upper (base s) := by
  unfold base upper baseChars
  rw [String.toList_ofList, String.toList_ofList, parameterised?_upperChars]
  cases parameterised? s.toList with
  | none => simp only [Option.map_none, trimChars_upperChars]
  | some p => simp only [Option.map_some, ← upperChars_append, trimChars_upperChars]

theorem base_upper_trim (s : String) : base (upper (trim s)) = upper (base s) := by
  rw [base_upper, base_trim]

theorem parameter_upper (s : String) : parameter (upper s) = upper (parameter s) := by
  unfold parameter upper parameterChars
  rw [String.toList_ofList, String.toList_ofList, parameterised?_upperChars]
  cases parameterised? s.toList with
  | none => rfl
  | some p => simp only [Option.map_some, trimChars_upperChars]

end Declaration

end MigrationAudit
