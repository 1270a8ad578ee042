import MigrationAudit.Proofs.Storage.TrueSize

/-!
# Sizes grow with declared lengths

The sizes of the columns of one type are one function of the number in their declared lengths, in a
row as in a key, and that function is monotone: within the bands for a large object, and everywhere
for any other type (`exists_sizedBy_rowSize`, `exists_sizedBy_keySize`).
-/

namespace MigrationAudit

namespace Storage

open Text

/-! ## Lengths as they are written -/

/-- The text declares a length for a column of the type: the number that it is, or the one before
its comma where the type has a precision. -/
def Declares (type : Option StoredType) (s : String) (n : Nat) : Prop :=
  word? (trim (if type = some .decimal then beforeComma s else s)) = some n

instance (type : Option StoredType) (s : String) (n : Nat) : Decidable (Declares type s n) :=
  inferInstanceAs (Decidable (_ = _))

theorem trimChars_takeWhile_cons {c : Char} (h : isBlank c = true) (cs : List Char) :
    trimChars ((c :: cs).takeWhile (· ≠ ',')) = trimChars (cs.takeWhile (· ≠ ',')) := by
  have hc : c ≠ ',' := by
    rintro rfl
    exact absurd h (by decide)
  rw [List.takeWhile_cons_of_pos (by simpa using hc), trimChars_cons_of_isBlank h]

theorem trimChars_takeWhile_append (cs : List Char) {c : Char} (h : isBlank c = true) :
    trimChars ((cs ++ [c]).takeWhile (· ≠ ',')) = trimChars (cs.takeWhile (· ≠ ',')) := by
  rw [List.takeWhile_append]
  split
  · next hall =>
    have hcs : cs.takeWhile (· ≠ ',') = cs := (List.takeWhile_prefix _).eq_of_length hall
    rw [hcs, List.takeWhile_cons]
    split
    · exact trimChars_append_of_isBlank cs h
    · rw [List.append_nil]
  · rfl

theorem trim_beforeComma_trim (s : String) :
    trim (beforeComma (trim s)) = trim (beforeComma s) := by
  simp only [trim, beforeComma, String.toList_ofList]
  rw [trimChars_invariant (f := fun cs => trimChars (cs.takeWhile (· ≠ ',')))
    trimChars_takeWhile_cons trimChars_takeWhile_append]

section Declares

variable {type : Option StoredType} {s : String} {n : Nat}

/-- A text of blanks declares no length. -/
theorem Declares.trim_ne_empty (h : Declares type s n) : trim s ≠ "" := by
  intro hs
  have hblank := trim_eq_empty_iff.mp hs
  have hempty : trim (if type = some .decimal then beforeComma s else s) = "" := by
    refine trim_eq_empty_iff.mpr ?_
    split
    · rw [beforeComma, String.toList_ofList]
      exact fun c hc => hblank c ((List.takeWhile_sublist _).subset hc)
    · exact hblank
  rw [Declares, hempty] at h
  cases h

/-- A length is read as it is declared, where the type reads one. -/
theorem Declares.read_trim (h : Declares type s n) :
    (Measure.ofType? type).read (trim s) =
      .ok (if Measure.ofType? type = .nothing then 0 else n) := by
  have hblank : isBlankText (trim s) = false := by
    rw [Bool.eq_false_iff]
    intro hb
    refine h.trim_ne_empty ?_
    rw [← trim_trim]
    exact trim_eq_empty_iff.mpr (List.all_eq_true.mp hb)
  unfold Declares at h
  by_cases hd : type = some .decimal
  · subst hd
    rw [if_pos rfl] at h
    simp [Measure.ofType?, Measure.ofType, Measure.read, Declaration.precision, hblank,
      Declaration.number, trim_beforeComma_trim, h]
  · rw [if_neg hd] at h
    cases hm : Measure.ofType? type with
    | nothing => rfl
    | number => simp [Measure.read, lengthOf, Declaration.number, trim_trim, h]
    | precision =>
      rcases type with _ | type
      · cases hm
      · cases type with
        | decimal => exact absurd rfl hd
        | _ => cases hm

theorem Declares.declaredLength? (h : Declares type s n) (c : Column) :
    Storage.declaredLength? { c with length := some s } = some (trim s) := by
  simp [Storage.declaredLength?, h.trim_ne_empty]

end Declares

/-! ## Sizes -/

/-- The function is monotone, for a large object up to the greatest length in the bands. -/
def GrowsFor (type : Option StoredType) (f : Nat → Nat) : Prop :=
  ∀ ⦃m n : Nat⦄, m ≤ n → (type = some .lob → n ≤ greatestLobLength) → f m ≤ f n

theorem growsFor_const (type : Option StoredType) (k : Nat) : GrowsFor type fun _ => k :=
  fun _ _ _ _ => le_rfl

theorem saturatingAdd_mono {a a' b b' : Nat} (ha : a ≤ a') (hb : b ≤ b') :
    saturatingAdd a b ≤ saturatingAdd a' b' :=
  min_le_min (Nat.add_le_add ha hb) le_rfl

/-- The bands of greater lengths have larger descriptors. -/
theorem lobBands_sorted : lobBands.Pairwise fun b b' => b.2 ≤ b'.2 := by decide

/-- The first band that reaches a length comes no later than the first that reaches a greater
one. -/
theorem find?_band_le {m n : Nat} (h : m ≤ n) : ∀ {bands : List (Nat × Nat)} {b : Nat × Nat},
    bands.Pairwise (fun b b' => b.2 ≤ b'.2) → bands.find? (n ≤ ·.1) = some b →
      ∃ a, bands.find? (m ≤ ·.1) = some a ∧ a.2 ≤ b.2
  | [], _, _, hb => by cases hb
  | d :: bands, b, hs, hb => by
    obtain ⟨hd, hs⟩ := List.pairwise_cons.mp hs
    by_cases hm : m ≤ d.1
    · refine ⟨d, by simp [hm], ?_⟩
      rcases List.mem_cons.mp (List.mem_of_find?_eq_some hb) with rfl | hmem
      · exact le_rfl
      · exact hd b hmem
    · have hn : ¬ n ≤ d.1 := fun hn => hm (h.trans hn)
      rw [List.find?_cons_of_neg (by simpa using hn)] at hb
      rw [List.find?_cons_of_neg (by simpa using hm)]
      exact find?_band_le h hs hb

theorem growsFor_lobSize : GrowsFor (some .lob) lobSize := by
  intro m n h hn
  have hpos := (one_le_lobSize_iff n).mpr (hn rfl)
  unfold lobSize at hpos ⊢
  cases hb : lobBands.find? (n ≤ ·.1) with
  | none => simp [hb] at hpos
  | some b =>
    obtain ⟨a, ha, hle⟩ := find?_band_le h lobBands_sorted hb
    simpa [ha] using hle

theorem map_eq_bind (x : Except Failure Nat) (f : Nat → Nat) :
    (do return f (← x)) = x.map f := by
  cases x <;> rfl

theorem exists_growing_sizeInRow (type : StoredType) :
    ∃ f, GrowsFor (some type) f ∧
      ∀ s, sizeInRow type (some s) = ((Measure.ofType type).read s).map f := by
  cases type with
  | decimal =>
    refine ⟨fun n => saturatingAdd (n / 2) 3, fun m n h _ => ?_, fun s => map_eq_bind _ _⟩
    exact saturatingAdd_mono (Nat.div_le_div_right h) le_rfl
  | character =>
    refine ⟨fun n => saturatingAdd n 2, fun m n h _ => ?_, fun s => map_eq_bind _ _⟩
    exact saturatingAdd_mono h le_rfl
  | varying =>
    refine ⟨fun n => if inlineLimit < n then 29 else saturatingAdd n 5, fun m n h _ => ?_,
      fun s => map_eq_bind _ _⟩
    unfold inlineLimit saturatingAdd maxWord
    dsimp only
    split <;> split <;> omega
  | timestamp =>
    refine ⟨fun n => saturatingAdd (saturatingAdd n 1 / 2) 9, fun m n h _ => ?_,
      fun s => map_eq_bind _ _⟩
    exact saturatingAdd_mono (Nat.div_le_div_right (saturatingAdd_mono h le_rfl)) le_rfl
  | lob => exact ⟨lobSize, growsFor_lobSize, fun s => map_eq_bind _ _⟩
  | _ => exact ⟨fun _ => _, growsFor_const _ _, fun s => rfl⟩

theorem exists_growing_sizeInKey (type : StoredType) :
    ∃ f, GrowsFor (some type) f ∧
      ∀ s, sizeInKey type (some s) = ((Measure.ofType type).read s).map f := by
  by_cases ht : type = .varying
  · subst ht
    refine ⟨fun n => saturatingAdd n 3, fun m n h _ => ?_, fun s => map_eq_bind _ _⟩
    exact saturatingAdd_mono h le_rfl
  · simp only [sizeInKey_of_ne_varying ht]
    exact exists_growing_sizeInRow type

/-- One monotone function gives the sizes of all columns of one type with a declared length. -/
def SizedBy (size : Column → Except Failure Nat) (type : Option StoredType) (f : Nat → Nat) :
    Prop :=
  GrowsFor type f ∧ ∀ c s, storedType? c = type → Storage.declaredLength? c = some s →
    size c = ((Measure.ofType? type).read s).map f

theorem exists_sizedBy_rowSize (type : Option StoredType) : ∃ f, SizedBy rowSize type f := by
  rcases type with _ | type
  · exact ⟨fun _ => 0, growsFor_const none 0, fun c s ht _ => by rw [rowSize, ht]; rfl⟩
  · obtain ⟨f, hf, hsize⟩ := exists_growing_sizeInRow type
    refine ⟨f, hf, fun c s ht hs => ?_⟩
    simp only [rowSize, ht, hs]
    exact hsize s

theorem exists_sizedBy_keySize (type : Option StoredType) : ∃ f, SizedBy keySize type f := by
  rcases type with _ | type
  · exact ⟨fun _ => 0, growsFor_const none 0, fun c s ht _ => by rw [keySize, ht]; rfl⟩
  · obtain ⟨f, hf, hsize⟩ := exists_growing_sizeInKey type
    refine ⟨f, hf, fun c s ht hs => ?_⟩
    simp only [keySize, ht, hs]
    exact hsize s

section Declared

variable {size : Column → Except Failure Nat} {c : Column} {s s' : String} {m n : Nat}

theorem SizedBy.eq_of_declares {f : Nat → Nat} (hf : SizedBy size (storedType? c) f)
    (hm : Declares (storedType? c) s m) : size { c with length := some s } =
      .ok (f (if Measure.ofType? (storedType? c) = .nothing then 0 else m)) := by
  rw [hf.2 { c with length := some s } _ rfl (hm.declaredLength? c), hm.read_trim]
  rfl

theorem SizedBy.le_of_declares (hf : ∃ f, SizedBy size (storedType? c) f)
    (hm : Declares (storedType? c) s m) (hn : Declares (storedType? c) s' n) (hmn : m ≤ n)
    (hlob : storedType? c = some .lob → n ≤ greatestLobLength) :
    ∃ a b, size { c with length := some s } = .ok a ∧ size { c with length := some s' } = .ok b ∧
      a ≤ b := by
  obtain ⟨f, hf⟩ := hf
  refine ⟨_, _, hf.eq_of_declares hm, hf.eq_of_declares hn, hf.1 ?_ fun ht => ?_⟩
  · split
    · exact le_rfl
    · exact hmn
  · split
    · exact Nat.zero_le _
    · exact hlob ht

end Declared

end Storage

end MigrationAudit
