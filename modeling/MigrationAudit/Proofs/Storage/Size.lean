import MigrationAudit.Proofs.Declaration
import MigrationAudit.Proofs.Schema.Typing
import MigrationAudit.Storage.Size

/-!
# How sizes depend on a declaration

The sizes of a column in a row and in a key read the recorded length in the same way, as a number,
as a precision or not at all, and they fail where it cannot be read and nowhere else
(`rowSize_eq_map`, `keySize_eq_map`).  A column of a known type takes room in its row, unless it is
a large object beyond all bands (`one_le_iff_of_rowSize`).
-/

namespace MigrationAudit

namespace Storage

open Text

/-! ## Reading a length -/

/-- What the sizes of a type take from a declared length. -/
inductive Measure where
  | nothing | precision | number
  deriving DecidableEq, Repr

namespace Measure

def read : Measure → String → Except Failure Nat
  | nothing, _ => .ok 0
  | precision, s => Declaration.precision "type" s
  | number, s => lengthOf s

def ofType : StoredType → Measure
  | .decimal => precision
  | .character | .varying | .timestamp | .lob => number
  | _ => nothing

/-- A type that is not known takes nothing. -/
def ofType? (type : Option StoredType) : Measure := type.elim nothing ofType

end Measure

def readLength (measure : Measure) (length : Option String) : Except Failure Nat :=
  length.elim (.ok 0) measure.read

theorem exists_map_eq_ok (n : Nat) :
    ∃ f : Nat → Nat, (.ok n : Except Failure Nat) = (Except.ok 0).map f := ⟨fun _ => n, rfl⟩

theorem exists_map_eq_bind (x : Except Failure Nat) (f : Nat → Nat) :
    ∃ g : Nat → Nat, (do return f (← x)) = x.map g := ⟨f, rfl⟩

theorem sizeInRow_eq_map (type : StoredType) (length : Option String) :
    ∃ f, sizeInRow type length = (readLength (.ofType type) length).map f := by
  cases length with
  | none => cases type <;> exact exists_map_eq_ok _
  | some s =>
    -- both sides in the open, for the unifier would look into the reading of the number
    cases type with
    | decimal | character | varying | timestamp | lob =>
      simp only [sizeInRow, readLength, Option.elim_some, Measure.ofType, Measure.read]
      exact exists_map_eq_bind _ _
    | _ => exact exists_map_eq_ok _

theorem sizeInKey_eq_map (type : StoredType) (length : Option String) :
    ∃ f, sizeInKey type length = (readLength (.ofType type) length).map f := by
  unfold sizeInKey
  split
  · simp only [readLength, Option.elim_some, Measure.ofType, Measure.read]
    exact exists_map_eq_bind _ _
  · exact exists_map_eq_ok _
  · exact sizeInRow_eq_map _ _

theorem rowSize_eq_map (c : Column) :
    ∃ f, rowSize c = (readLength (.ofType? (storedType? c)) (declaredLength? c)).map f := by
  unfold rowSize
  cases storedType? c with
  | none => cases declaredLength? c <;> exact exists_map_eq_ok 0
  | some type => exact sizeInRow_eq_map type _

theorem keySize_eq_map (c : Column) :
    ∃ f, keySize c = (readLength (.ofType? (storedType? c)) (declaredLength? c)).map f := by
  unfold keySize
  cases storedType? c with
  | none => cases declaredLength? c <;> exact exists_map_eq_ok 0
  | some type => exact sizeInKey_eq_map type _

/-! ## Types that take room -/

/-- The greatest length in the bands of large objects. -/
def greatestLobLength : Nat := 2147483647

theorem one_le_lobSize_iff (n : Nat) : 1 ≤ lobSize n ↔ n ≤ greatestLobLength := by
  have bands : ∀ b ∈ lobBands, b.1 ≤ greatestLobLength ∧ 1 ≤ b.2 := by decide
  unfold lobSize
  cases h : lobBands.find? fun b => decide (n ≤ b.1) with
  | none =>
    have hlast := List.find?_eq_none.mp h (greatestLobLength, 317) (by decide)
    simpa using hlast
  | some b =>
    obtain ⟨hb, hpos⟩ := bands b (List.mem_of_find?_eq_some h)
    have hn : n ≤ b.1 := by simpa using List.find?_some h
    exact iff_of_true hpos (hn.trans hb)

theorem eq_of_bind_eq_ok {x : Except Failure Nat} {f : Nat → Nat} {n : Nat}
    (h : (do return f (← x)) = Except.ok n) : ∃ k, x = .ok k ∧ f k = n := by
  cases x with
  | error failure => cases h
  | ok k => exact ⟨k, rfl, Except.ok.inj h⟩

theorem one_le_saturatingAdd (a : Nat) {b : Nat} (hb : 1 ≤ b) (hw : b ≤ maxWord) :
    1 ≤ saturatingAdd a b := by
  unfold saturatingAdd
  omega

/-- Only a large object can take nothing of its row. -/
theorem one_le_of_sizeInRow {type : StoredType} {length : Option String} {n : Nat}
    (ht : type ≠ .lob) (h : sizeInRow type length = .ok n) : 1 ≤ n := by
  cases type with
  | lob => exact absurd rfl ht
  | decimal | character | timestamp =>
    cases length with
    | none =>
      obtain rfl := Except.ok.inj h
      decide
    | some s =>
      obtain ⟨k, -, rfl⟩ := eq_of_bind_eq_ok h
      exact one_le_saturatingAdd _ (by decide) (by decide)
  | varying =>
    cases length with
    | none =>
      obtain rfl := Except.ok.inj h
      decide
    | some s =>
      obtain ⟨k, -, rfl⟩ := eq_of_bind_eq_ok h
      split
      · decide
      · exact one_le_saturatingAdd _ (by decide) (by decide)
  | _ =>
    obtain rfl := Except.ok.inj h
    decide

/-- A column takes room in its row exactly if its type is known and, should it be a large object,
its length lies in some band. -/
theorem one_le_iff_of_rowSize {c : Column} {n : Nat} (h : rowSize c = .ok n) :
    1 ≤ n ↔ (storedType? c).isSome ∧ (storedType? c = some .lob →
      ∀ s, declaredLength? c = some s → ∀ m, lengthOf s = .ok m → m ≤ greatestLobLength) := by
  unfold rowSize at h
  cases ht : storedType? c with
  | none =>
    rw [ht] at h
    obtain rfl := Except.ok.inj h
    simp
  | some type =>
    simp only [ht] at h
    simp only [Option.isSome_some, true_and, Option.some.injEq]
    by_cases hlob : type = .lob
    · subst hlob
      cases hl : declaredLength? c with
      | none =>
        rw [hl] at h
        obtain rfl := Except.ok.inj h
        simp [one_le_lobSize_iff, defaultLobLength, greatestLobLength]
      | some s =>
        rw [hl] at h
        obtain ⟨k, hk, rfl⟩ := eq_of_bind_eq_ok h
        simp [one_le_lobSize_iff, hk]
    · simp [hlob, one_le_of_sizeInRow hlob h]

theorem sizeInKey_of_ne_varying {type : StoredType} (ht : type ≠ .varying)
    (length : Option String) : sizeInKey type length = sizeInRow type length := by
  cases type with
  | varying => exact absurd rfl ht
  | _ => rfl

/-- A column with a size in its row has one in a key, and takes room in both or in neither. -/
theorem keySize_of_rowSize {c : Column} {n : Nat} (h : rowSize c = .ok n) :
    ∃ k, keySize c = .ok k ∧ (1 ≤ k ↔ 1 ≤ n) := by
  unfold rowSize at h
  unfold keySize
  cases ht : storedType? c with
  | none =>
    rw [ht] at h
    exact ⟨n, h, Iff.rfl⟩
  | some type =>
    simp only [ht] at h ⊢
    by_cases hv : type = .varying
    · subst hv
      have hn := one_le_of_sizeInRow (by decide) h
      cases hl : declaredLength? c with
      | none => exact ⟨4, rfl, iff_of_true (by decide) hn⟩
      | some s =>
        rw [hl] at h
        obtain ⟨m, hm, -⟩ := eq_of_bind_eq_ok h
        refine ⟨saturatingAdd m 3, ?_, iff_of_true ?_ hn⟩
        · simp only [sizeInKey, hm, bind, Except.bind, pure, Except.pure]
        · exact one_le_saturatingAdd m (by decide) (by decide)
    · exact ⟨n, (sizeInKey_of_ne_varying hv _).trans h, Iff.rfl⟩

/-! ## Recorded declarations -/

section Recorded

variable {d : String} {c : Column}

theorem declaredLength?_of_recorded (h : c.typing = .ofDeclaration (some d)) :
    declaredLength? c =
      if Declaration.parameter d = "" then none else some (Declaration.parameter d) := by
  have hl : c.length = some (Declaration.parameter d) := congrArg Typing.length h
  rw [declaredLength?, hl, Option.map_some, Declaration.trim_parameter]
  by_cases hp : Declaration.parameter d = "" <;> simp [hp]

theorem storedType?_of_recorded (h : c.typing = .ofDeclaration (some d)) :
    storedType? c = StoredType.ofName? (Declaration.base d) := by
  have hb : c.dataType = some (Declaration.base d) := congrArg Typing.base h
  rw [storedType?, hb, Option.bind_some]

end Recorded

end Storage

end MigrationAudit
