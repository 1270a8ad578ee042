import MigrationAudit.Proofs.Text.Slices

/-!
# Parts of a declaration

A declaration is either whole or parted by its first parentheses into what is before, inside and
after them (`Declaration.isWhole_or_isParted`).  Base and parameter can be had from slices between
the first opening and the first closing parenthesis, each looked for by itself: the slices are
always there, and the outcome is the same (`Declaration.parts_agree`).
-/

namespace MigrationAudit.Declaration

open Text

theorem parameterised?_eq_some_iff {cs before inside after : List Char} :
    parameterised? cs = some (before, inside, after) ↔
      '(' ∉ before ∧ ')' ∉ before ∧ ')' ∉ inside ∧
        cs = before ++ '(' :: (inside ++ ')' :: after) := by
  unfold parameterised?
  constructor
  · intro h
    cases ho : splitAtFirst? '(' cs with
    | none =>
      rw [ho] at h
      cases h
    | some p =>
      obtain ⟨b, rest⟩ := p
      simp only [ho] at h
      split at h
      · cases h
      · next hc =>
        simp only [Option.map_eq_some_iff, Prod.exists, Prod.mk.injEq] at h
        obtain ⟨i, a, hi, rfl, rfl, rfl⟩ := h
        obtain ⟨hopen, rfl⟩ := splitAtFirst?_eq_some_iff.mp ho
        obtain ⟨hinside, rfl⟩ := splitAtFirst?_eq_some_iff.mp hi
        exact ⟨hopen, hc, hinside, rfl⟩
  · rintro ⟨hopen, hc, hinside, rfl⟩
    have ho : splitAtFirst? '(' (before ++ '(' :: (inside ++ ')' :: after)) =
        some (before, inside ++ ')' :: after) := splitAtFirst?_eq_some_iff.mpr ⟨hopen, rfl⟩
    have hi : splitAtFirst? ')' (inside ++ ')' :: after) = some (inside, after) :=
      splitAtFirst?_eq_some_iff.mpr ⟨hinside, rfl⟩
    simp only [ho, if_neg hc, hi, Option.map_some]

theorem parameterised?_eq_none_of_not_mem {cs : List Char} (h : '(' ∉ cs) :
    parameterised? cs = none := by
  rw [parameterised?, (splitAtFirst?_eq_none_iff '(' cs).mpr h]

/-! ## Whole and parted declarations -/

/-- A parameter in parentheses, with what is before and after them: no parentheses before the
opening one, and none that closes before the closing one. -/
structure IsParted (s before inside after : String) : Prop where
  text : s = before ++ "(" ++ inside ++ ")" ++ after
  opening : '(' ∉ before.toList
  closing : ')' ∉ before.toList
  closing_inside : ')' ∉ inside.toList

/-- The first opening parenthesis is missing, or no closing one follows it, or one comes before. -/
def IsWhole (s : String) : Prop :=
  '(' ∉ s.toList ∨ ∃ before after, s = before ++ "(" ++ after ∧ '(' ∉ before.toList ∧
    (')' ∉ after.toList ∨ ')' ∈ before.toList)

variable {s before inside after : String}

theorem isWhole_or_isParted (s : String) :
    IsWhole s ∨ ∃ before inside after, IsParted s before inside after := by
  by_cases hs : '(' ∈ s.toList
  · obtain ⟨before, rest, hopening, htext⟩ := exists_first_of_mem hs
    by_cases hclosing : ')' ∈ before.toList
    · exact .inl (.inr ⟨before, rest, htext, hopening, .inr hclosing⟩)
    by_cases hrest : ')' ∈ rest.toList
    · obtain ⟨inside, after, hinside, rfl⟩ := exists_first_of_mem hrest
      refine .inr ⟨before, inside, after, ?_, hopening, hclosing, hinside⟩
      rw [htext, ← String.append_assoc, ← String.append_assoc]
      rfl
    · exact .inl (.inr ⟨before, rest, htext, hopening, .inl hrest⟩)
  · exact .inl (.inl hs)

namespace IsParted

theorem parameterised?_eq (h : IsParted s before inside after) :
    parameterised? s.toList = some (before.toList, inside.toList, after.toList) := by
  refine parameterised?_eq_some_iff.mpr ⟨h.opening, h.closing, h.closing_inside, ?_⟩
  rw [h.text]
  simp

theorem base_eq (h : IsParted s before inside after) : base s = trim (before ++ after) := by
  rw [base, baseChars, h.parameterised?_eq, trim, String.toList_append]

theorem parameter_eq (h : IsParted s before inside after) : parameter s = trim inside := by
  rw [parameter, parameterChars, h.parameterised?_eq, trim]

end IsParted

namespace IsWhole

theorem parameterised?_eq (h : IsWhole s) : parameterised? s.toList = none := by
  rcases h with h | ⟨before, after, rfl, hopening, hclosing⟩
  · exact parameterised?_eq_none_of_not_mem h
  · have own : splitAtFirst? '(' (before ++ "(" ++ after).toList =
        some (before.toList, after.toList) :=
      splitAtFirst?_eq_some_iff.mpr ⟨hopening, by simp⟩
    rw [parameterised?_eq_none_iff, own]
    rintro _ _ ⟨rfl, rfl⟩
    exact hclosing.symm

theorem base_eq (h : IsWhole s) : base s = trim s := by
  rw [base, baseChars, h.parameterised?_eq, trim]

theorem parameter_eq (h : IsWhole s) : parameter s = "" := by
  rw [parameter, parameterChars, h.parameterised?_eq, String.ofList_nil]

end IsWhole

theorem exists_isParted_of_parameter_ne_empty (h : parameter s ≠ "") :
    ∃ before inside after, IsParted s before inside after :=
  (isWhole_or_isParted s).resolve_left fun hwhole => h hwhole.parameter_eq

/-! ## Slices -/

/-- What is before the first opening and what is after the first closing parenthesis, if they are
in order. -/
def slicedBase? (s : String) : Option String :=
  match offset? '(' s, offset? ')' s with
  | some first, some last =>
    if first ≤ last then do
      let before ← slice? s 0 first
      let after ← slice? s (last + 1) s.utf8ByteSize
      return trim (before ++ after)
    else some (trim s)
  | _, _ => some (trim s)

/-- What is between the first opening and the first closing parenthesis, if they are in order. -/
def slicedParameter? (s : String) : Option String :=
  match offset? '(' s, offset? ')' s with
  | some first, some last =>
    if first < last then (slice? s (first + 1) last).map trim else some ""
  | _, _ => some ""

namespace IsParted

theorem offset?_opening (h : IsParted s before inside after) :
    offset? '(' s = some before.utf8ByteSize := by
  have text : s = before ++ String.singleton '(' ++ (inside ++ ")" ++ after) := by
    rw [h.text]
    simp only [String.append_assoc]
    rfl
  rw [text]
  exact offset?_append h.opening _

theorem offset?_closing (h : IsParted s before inside after) :
    offset? ')' s = some (before ++ "(" ++ inside).utf8ByteSize := by
  have free : ')' ∉ (before ++ "(" ++ inside).toList := by simp [h.closing, h.closing_inside]
  rw [h.text]
  exact offset?_append free after

theorem slices (h : IsParted s before inside after) :
    slicedBase? s = some (trim (before ++ after)) ∧ slicedParameter? s = some (trim inside) := by
  have past_opening : (before ++ "(").utf8ByteSize = before.utf8ByteSize + 1 :=
    String.utf8ByteSize_append
  have past_closing : (before ++ "(" ++ inside ++ ")").utf8ByteSize =
      (before ++ "(" ++ inside).utf8ByteSize + 1 := String.utf8ByteSize_append
  have hlt : before.utf8ByteSize < (before ++ "(" ++ inside).utf8ByteSize := by
    rw [String.utf8ByteSize_append, past_opening]
    omega
  -- each slice is one of the five stretches of the text, cut out from between the others
  have left : slice? s 0 before.utf8ByteSize = some before := by
    rw [h.text]
    simpa only [String.append_assoc] using slice?_prefix before ("(" ++ (inside ++ (")" ++ after)))
  have middle : slice? s (before.utf8ByteSize + 1) (before ++ "(" ++ inside).utf8ByteSize =
      some inside := by
    rw [h.text, ← past_opening]
    simpa only [String.append_assoc] using slice?_append (before ++ "(") inside (")" ++ after)
  have right : slice? s ((before ++ "(" ++ inside).utf8ByteSize + 1) s.utf8ByteSize =
      some after := by
    rw [h.text, ← past_closing]
    exact slice?_suffix (before ++ "(" ++ inside ++ ")") after
  constructor
  · rw [slicedBase?, h.offset?_opening, h.offset?_closing]
    simp only [hlt.le, if_true, left, right]
    rfl
  · rw [slicedParameter?, h.offset?_opening, h.offset?_closing]
    simp only [hlt, if_true, middle, Option.map_some]

end IsParted

namespace IsWhole

/-- Where both parentheses occur, the closing one is found first. -/
theorem offset?_closing_lt (h : IsWhole s) {first last : Nat} (hfirst : offset? '(' s = some first)
    (hlast : offset? ')' s = some last) : last < first := by
  have hopening := mem_of_offset?_eq_some hfirst
  obtain ⟨before, after, rfl, hbefore, hclosing⟩ := h.resolve_left (not_not.mpr hopening)
  have own : offset? '(' (before ++ "(" ++ after) = some before.utf8ByteSize :=
    offset?_append hbefore after
  obtain rfl := Option.some_inj.mp (own.symm.trans hfirst)
  have hmem : ')' ∈ before.toList := by
    have occurs := mem_of_offset?_eq_some hlast
    rcases hclosing with hafter | hmem
    · simpa [hafter] using occurs
    · exact hmem
  obtain ⟨i, hi, hlt⟩ := offset?_lt_of_mem hmem ("(" ++ after)
  rw [← String.append_assoc] at hi
  obtain rfl := Option.some_inj.mp (hi.symm.trans hlast)
  exact hlt

theorem slices (h : IsWhole s) :
    slicedBase? s = some (trim s) ∧ slicedParameter? s = some "" := by
  unfold slicedBase? slicedParameter?
  split
  · next first last hfirst hlast =>
    have hlt := h.offset?_closing_lt hfirst hlast
    rw [if_neg (not_le.mpr hlt), if_neg (not_lt.mpr hlt.le)]
    exact ⟨rfl, rfl⟩
  · exact ⟨rfl, rfl⟩

end IsWhole

/-- Base and parameter are what the slices give, which never fail.  A parted declaration has what is
around its parentheses as its base and what is inside as its parameter; a whole one is all base.  So
a parameter that is not empty is one that the base is without. -/
theorem parts_agree (s : String) :
    (slicedBase? s = some (base s) ∧ slicedParameter? s = some (parameter s)) ∧
      (∀ before inside after, IsParted s before inside after →
        base s = trim (before ++ after) ∧ parameter s = trim inside) ∧
      (IsWhole s → base s = trim s ∧ parameter s = "") ∧
      (parameter s ≠ "" → ∃ before inside after, IsParted s before inside after ∧
        parameter s = trim inside ∧ base s = trim (before ++ after)) := by
  refine ⟨?_, fun _ _ _ h => ⟨h.base_eq, h.parameter_eq⟩, fun h => ⟨h.base_eq, h.parameter_eq⟩, ?_⟩
  · rcases isWhole_or_isParted s with h | ⟨before, inside, after, h⟩
    · rw [h.base_eq, h.parameter_eq]
      exact h.slices
    · rw [h.base_eq, h.parameter_eq]
      exact h.slices
  · intro hne
    obtain ⟨before, inside, after, h⟩ := exists_isParted_of_parameter_ne_empty hne
    exact ⟨before, inside, after, h, h.parameter_eq, h.base_eq⟩

/-- Parentheses within parentheses next to characters of two bytes, and a first parenthesis that
closes nothing. -/
theorem parts_agree_of_nested_and_reversed :
    (IsParted " naïve(é(10)) TEXT" " naïve" "é(10" ") TEXT" ∧
      base " naïve(é(10)) TEXT" = "naïve) TEXT" ∧ parameter " naïve(é(10)) TEXT" = "é(10") ∧
    (IsWhole "ï)(1)" ∧ base "ï)(1)" = "ï)(1)" ∧ parameter "ï)(1)" = "") ∧
    parameter "CLOB(é)" ≠ "" ∧ ∃ before inside after, IsParted "CLOB(é)" before inside after ∧
      parameter "CLOB(é)" = trim inside ∧ base "CLOB(é)" = trim (before ++ after) := by
  have nested : IsParted " naïve(é(10)) TEXT" " naïve" "é(10" ") TEXT" :=
    ⟨by decide +kernel, by decide, by decide, by decide⟩
  have reversed : IsWhole "ï)(1)" :=
    .inr ⟨"ï)", "1)", by decide +kernel, by decide, .inr (by decide)⟩
  have inside : parameter "CLOB(é)" ≠ "" := by decide +kernel
  obtain ⟨hbase, hparameter⟩ := (parts_agree " naïve(é(10)) TEXT").2.1 _ _ _ nested
  obtain ⟨hwhole, hnothing⟩ := (parts_agree "ï)(1)").2.2.1 reversed
  refine ⟨⟨nested, hbase.trans ?_, hparameter.trans ?_⟩, ⟨reversed, hwhole.trans ?_, hnothing⟩,
    inside, (parts_agree "CLOB(é)").2.2.2 inside⟩
  all_goals decide +kernel

end MigrationAudit.Declaration
