import MigrationAudit.Proofs.Storage.Size

/-!
# True sizes

The sizes of a column in its row and in a key, computed in numbers without bound from the number in
its declared length.  They can be told exactly if the sizes in 64 bits can, and are equal to them
unless both are beyond any limit that is compared with them (`rowSize_agrees`, `keySize_agrees`).
-/

namespace MigrationAudit.Storage

open Text

/-- The number in the declared length of a column, where its type reads one. -/
def lengthRead (c : Column) : Except Failure (Option Nat) :=
  match declaredLength? c with
  | none => .ok none
  | some s => ((Measure.ofType? (storedType? c)).read s).map some

/-- The size in a row, by type and by the number in the declared length, if one is declared. -/
def trueSizeInRow : StoredType → Option Nat → Nat
  | .small, _ => 4
  | .integer, _ => 6
  | .long, _ => 10
  | .decimal, some n => n / 2 + 3
  | .decimal, none => 5
  | .character, some n => n + 2
  | .character, none => 3
  | .varying, some n => if inlineLimit < n then 29 else n + 5
  | .varying, none => 6
  | .date, _ => 6
  | .time, _ => 5
  | .timestamp, some n => (n + 1) / 2 + 9
  | .timestamp, none => 12
  | .lob, some n => lobSize n
  | .lob, none => lobSize defaultLobLength

/-- The size of a column in its row; a type that is not known takes nothing. -/
def trueRowSize (c : Column) : Except Failure Nat :=
  (lengthRead c).map fun n => (storedType? c).elim 0 (trueSizeInRow · n)

theorem trueRowSize_eq_error_iff {c : Column} {failure : Failure} :
    trueRowSize c = .error failure ↔ lengthRead c = .error failure := by
  unfold trueRowSize
  cases lengthRead c <;> simp [Except.map]

/-- The size in a key: a varying text is there in full length. -/
def trueSizeInKey : StoredType → Option Nat → Nat
  | .varying, some n => n + 3
  | .varying, none => 4
  | type, n => trueSizeInRow type n

/-- The size of a column in a key. -/
def trueKeySize (c : Column) : Except Failure Nat :=
  (lengthRead c).map fun n => (storedType? c).elim 0 (trueSizeInKey · n)

theorem trueKeySize_eq_error_iff {c : Column} {failure : Failure} :
    trueKeySize c = .error failure ↔ lengthRead c = .error failure := by
  unfold trueKeySize
  cases lengthRead c <;> simp [Except.map]

theorem number_eq_error {s : String} {failure : Failure}
    (h : Declaration.number "type" s = .error failure) :
    ∃ value, failure = .malformedNumber "type" value := by
  unfold Declaration.number at h
  split at h
  · cases h
  · exact ⟨s, (Except.error.inj h).symm⟩

theorem read_eq_error {measure : Measure} {s : String} {failure : Failure}
    (h : measure.read s = .error failure) : ∃ value, failure = .malformedNumber "type" value := by
  cases measure with
  | nothing => cases h
  | precision =>
    rw [Measure.read, Declaration.precision] at h
    split at h
    · cases h
    · exact number_eq_error h
  | number =>
    rw [Measure.read, lengthOf] at h
    exact number_eq_error h

/-- A length that cannot be read is no number. -/
theorem lengthRead_eq_error {c : Column} {failure : Failure} (h : lengthRead c = .error failure) :
    ∃ value, failure = .malformedNumber "type" value := by
  unfold lengthRead at h
  split at h
  · cases h
  · next s hs =>
    cases hr : (Measure.ofType? (storedType? c)).read s with
    | ok n => simp [hr, Except.map] at h
    | error failure' =>
      rw [hr] at h
      exact Except.error.inj h ▸ read_eq_error hr

/-! ## Sizes in 64 bits -/

/-- Two sizes are equal, or both beyond the limits. -/
def Agree (size size' : Nat) : Prop := size = size' ∨ 2 ^ 63 ≤ size ∧ 2 ^ 63 ≤ size'

/-- Two sizes cannot be told for the same reason, or agree. -/
def SizesAgree : Except Failure Nat → Except Failure Nat → Prop
  | .error failure, .error failure' => failure = failure'
  | .ok size, .ok size' => Agree size size'
  | _, _ => False

theorem SizesAgree.refl (size : Except Failure Nat) : SizesAgree size size := by
  cases size with
  | error failure => exact rfl
  | ok size => exact .inl rfl

theorem SizesAgree.bind {f g : Nat → Nat} (h : ∀ n, Agree (f n) (g n)) (x : Except Failure Nat) :
    SizesAgree (do return f (← x)) (x.map g) := by
  cases x with
  | error failure => exact rfl
  | ok n => exact h n

theorem SizesAgree.eq_error_iff {x y : Except Failure Nat} (h : SizesAgree x y)
    {failure : Failure} : x = .error failure ↔ y = .error failure := by
  rcases x with failure' | size <;> rcases y with failure'' | size'
  · obtain rfl : failure' = failure'' := h
    rfl
  · exact h.elim
  · exact h.elim
  · exact iff_of_false nofun nofun

theorem SizesAgree.exists_eq_ok {x : Except Failure Nat} {size : Nat}
    (h : SizesAgree x (.ok size)) : ∃ size', x = .ok size' ∧ Agree size' size := by
  rcases x with failure | size'
  · exact h.elim
  · exact ⟨size', rfl, h⟩

/-- Sizes that agree keep the same limits. -/
theorem Agree.le_iff {size size' limit : Nat} (h : Agree size size') (hl : limit < 2 ^ 63) :
    size ≤ limit ↔ size' ≤ limit := by
  unfold Agree at h
  omega

theorem Agree.saturatingAdd {a a' b b' : Nat} (h : Agree a a') (h' : Agree b b') :
    Agree (saturatingAdd a b) (a' + b') := by
  unfold Agree Storage.saturatingAdd maxWord at *
  omega

theorem saturatingAdd_agrees (a b : Nat) : Agree (saturatingAdd a b) (a + b) :=
  Agree.saturatingAdd (.inl rfl) (.inl rfl)

/-- A number that is cut off before it is halved is beyond the limits all the same. -/
theorem halved_agrees (n : Nat) :
    Agree (saturatingAdd (saturatingAdd n 1 / 2) 9) ((n + 1) / 2 + 9) := by
  unfold Agree saturatingAdd maxWord
  omega

theorem sizeInRow_agrees (type : StoredType) (s : String) :
    SizesAgree (sizeInRow type (some s))
      (((Measure.ofType type).read s).map fun n => trueSizeInRow type (some n)) := by
  -- what is read is generalised, for the unifier would look into the reading
  cases type with
  | decimal =>
    simp only [sizeInRow, Measure.ofType, Measure.read, trueSizeInRow]
    generalize Declaration.precision "type" s = read
    exact SizesAgree.bind (fun n => saturatingAdd_agrees (n / 2) 3) read
  | character =>
    simp only [sizeInRow, Measure.ofType, Measure.read, trueSizeInRow]
    generalize lengthOf s = read
    exact SizesAgree.bind (fun n => saturatingAdd_agrees n 2) read
  | varying =>
    simp only [sizeInRow, Measure.ofType, Measure.read, trueSizeInRow]
    generalize lengthOf s = read
    refine SizesAgree.bind (fun n => ?_) read
    split
    · exact .inl rfl
    · exact saturatingAdd_agrees n 5
  | timestamp =>
    simp only [sizeInRow, Measure.ofType, Measure.read, trueSizeInRow]
    generalize lengthOf s = read
    exact SizesAgree.bind halved_agrees read
  | lob =>
    simp only [sizeInRow, Measure.ofType, Measure.read, trueSizeInRow]
    generalize lengthOf s = read
    exact SizesAgree.bind (fun n => .inl rfl) read
  | _ => exact SizesAgree.refl _

theorem map_some_map (x : Except Failure Nat) (f : Option Nat → Nat) :
    (x.map some).map f = x.map fun n => f (some n) := by
  cases x <;> rfl

theorem rowSize_agrees (c : Column) : SizesAgree (rowSize c) (trueRowSize c) := by
  unfold rowSize trueRowSize lengthRead
  cases storedType? c with
  | none => cases declaredLength? c <;> exact SizesAgree.refl _
  | some type =>
    cases declaredLength? c with
    | none => cases type <;> exact SizesAgree.refl _
    | some s =>
      simp only [map_some_map]
      exact sizeInRow_agrees type s

/-- Only a varying text takes another size in a key than in its row. -/
theorem keySizes_of_not_varying {c : Column} (h : storedType? c ≠ some .varying) :
    keySize c = rowSize c ∧ trueKeySize c = trueRowSize c := by
  unfold keySize rowSize trueKeySize trueRowSize
  cases ht : storedType? c with
  | none => exact ⟨rfl, rfl⟩
  | some type =>
    cases type with
    | varying => exact absurd ht h
    | _ => exact ⟨rfl, rfl⟩

theorem keySize_agrees (c : Column) : SizesAgree (keySize c) (trueKeySize c) := by
  by_cases h : storedType? c = some .varying
  · unfold keySize trueKeySize lengthRead
    rw [h]
    cases declaredLength? c with
    | none => exact SizesAgree.refl _
    | some s =>
      simp only [map_some_map, sizeInKey, Option.elim_some, Measure.ofType?, Measure.ofType,
        Measure.read, trueSizeInKey]
      generalize lengthOf s = read
      exact SizesAgree.bind (fun n => saturatingAdd_agrees n 3) read
  · obtain ⟨hkey, htrue⟩ := keySizes_of_not_varying h
    rw [hkey, htrue]
    exact rowSize_agrees c

theorem keySize_eq_error_iff {c : Column} {failure : Failure} :
    keySize c = .error failure ↔ lengthRead c = .error failure :=
  (keySize_agrees c).eq_error_iff.trans trueKeySize_eq_error_iff

end MigrationAudit.Storage
