import MigrationAudit.Proofs.Text.Pieces

/-!
# Slices by bytes

A text is stored as bytes, a character as one to four of them.  A slice is taken by the numbers of
bytes in front of its ends, which may point beyond the text or into a character; then there is no
slice.  The slice between what is before and after a stretch is that stretch (`slice?_append`), and
a character is found after as many bytes as there are before its first occurrence
(`offset?_append`).
-/

namespace MigrationAudit.Text

/-- The number of bytes in front of the first occurrence of a character. -/
def offset? (c : Char) (s : String) : Option Nat :=
  (splitAtFirst? c s.toList).map fun p => (String.ofList p.1).utf8ByteSize

/-- The bytes from `first` to before `last`, provided that both are positions in the text, neither
beyond it nor inside a character, and in order. -/
def slice? (s : String) (first last : Nat) : Option String :=
  if h : first ≤ last ∧ String.Pos.Raw.IsValid s ⟨first⟩ ∧ String.Pos.Raw.IsValid s ⟨last⟩ then
    some (s.extract (s.pos ⟨first⟩ h.2.1) (s.pos ⟨last⟩ h.2.2))
  else none

theorem isValid_append (before after : String) :
    String.Pos.Raw.IsValid (before ++ after) ⟨before.utf8ByteSize⟩ :=
  String.Pos.Raw.isValid_iff_exists_append.mpr ⟨before, after, rfl, rfl⟩

theorem slice?_append (before middle after : String) :
    slice? (before ++ middle ++ after) before.utf8ByteSize
      (before ++ middle).utf8ByteSize = some middle := by
  have hfirst : String.Pos.Raw.IsValid (before ++ middle ++ after) ⟨before.utf8ByteSize⟩ := by
    rw [String.append_assoc]
    exact isValid_append before (middle ++ after)
  have hlast := isValid_append (before ++ middle) after
  have hle : before.utf8ByteSize ≤ (before ++ middle).utf8ByteSize := by
    rw [String.utf8ByteSize_append]
    exact Nat.le_add_right _ _
  have first : (String.pos _ _ hfirst).Splits before (middle ++ after) := ⟨String.append_assoc, rfl⟩
  have last : (String.pos _ _ hlast).Splits (before ++ middle) after := ⟨rfl, rfl⟩
  obtain ⟨horder, hmiddle⟩ := String.copy_slice_eq_iff_splits.mpr ⟨before, after, first, last⟩
  rw [slice?, dif_pos ⟨hle, hfirst, hlast⟩, String.extract_eq_copy_slice _ _ horder, hmiddle]

/-- The umlaut is the third and the fourth byte, and no slice begins between them. -/
example : slice? "größe" 2 4 = some "ö" ∧ slice? "größe" 3 4 = none := by decide +kernel

theorem slice?_prefix (before after : String) :
    slice? (before ++ after) 0 before.utf8ByteSize = some before := by
  simpa using slice?_append "" before after

theorem slice?_suffix (before after : String) :
    slice? (before ++ after) before.utf8ByteSize (before ++ after).utf8ByteSize = some after := by
  simpa using slice?_append before after ""

theorem offset?_append {c : Char} {before : String} (h : c ∉ before.toList) (after : String) :
    offset? c (before ++ String.singleton c ++ after) = some before.utf8ByteSize := by
  have split : splitAtFirst? c (before ++ String.singleton c ++ after).toList =
      some (before.toList, after.toList) :=
    splitAtFirst?_eq_some_iff.mpr ⟨h, by simp⟩
  rw [offset?, split, Option.map_some, String.ofList_toList]

theorem mem_of_offset?_eq_some {c : Char} {s : String} {i : Nat} (h : offset? c s = some i) :
    c ∈ s.toList := by
  by_contra hc
  rw [offset?, (splitAtFirst?_eq_none_iff c s.toList).mpr hc] at h
  cases h

theorem exists_first_of_mem {c : Char} {s : String} (h : c ∈ s.toList) :
    ∃ before after, c ∉ before.toList ∧ s = before ++ String.singleton c ++ after := by
  rcases hs : splitAtFirst? c s.toList with _ | ⟨before, after⟩
  · exact absurd h ((splitAtFirst?_eq_none_iff c s.toList).mp hs)
  · obtain ⟨hc, hs⟩ := splitAtFirst?_eq_some_iff.mp hs
    refine ⟨String.ofList before, String.ofList after, by simpa using hc, ?_⟩
    rw [← String.toList_inj, hs]
    simp

/-- A character that first occurs before another one is found after fewer bytes. -/
theorem offset?_lt_of_mem {c : Char} {before : String} (h : c ∈ before.toList) (after : String) :
    ∃ i, offset? c (before ++ after) = some i ∧ i < before.utf8ByteSize := by
  obtain ⟨left, right, hc, rfl⟩ := exists_first_of_mem h
  refine ⟨left.utf8ByteSize, ?_, ?_⟩
  · rw [String.append_assoc]
    exact offset?_append hc (right ++ after)
  · have hpos := c.utf8Size_pos
    simp only [String.utf8ByteSize_append, String.utf8ByteSize_singleton]
    omega

end MigrationAudit.Text
