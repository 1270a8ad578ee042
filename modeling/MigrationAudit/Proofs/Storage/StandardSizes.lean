import MigrationAudit.Proofs.Rule.StandardType
import MigrationAudit.Proofs.Storage.Size
import MigrationAudit.Rule.Basic

/-!
# Sizes of standard types

The rule on standard types does not look at the parameter of a declaration, while the sizes of a
column may need it as a number.  So a column of a standard type has sizes exactly if its declaration
is measured (`sizes_of_accepted`).  The size in a row is at least one for a standard type of
which a size is known, unless it is a large object beyond all bands (`one_le_rowSize_iff_of_sized`).
-/

namespace MigrationAudit

namespace Storage

open Text

/-! ## Names -/

def standardNames : List String := StandardType.fixedNames ++ StandardType.parametricNames

/-- The standard types whose sizes take nothing from a length. -/
def lengthlessNames : List String := StandardType.fixedNames ++ ["CHARACTER", "NUMERIC", "FLOAT"]

/-- Standard types of which a size is known. -/
def sizedNames : List String :=
  ["BOOLEAN", "INTEGER", "SMALLINT", "BIGINT", "DATE", "VARCHAR", "CLOB", "NCHAR", "NVARCHAR",
    "NCLOB", "BLOB", "DECIMAL", "FLOAT", "TIMESTAMP"]

theorem upper_of_mem_standardNames : ∀ name ∈ standardNames, upper name = name := by
  decide +kernel

theorem measure_of_mem_standardNames : ∀ name ∈ standardNames,
    Measure.ofType? (StoredType.ofName? name) =
      if name ∈ lengthlessNames then .nothing else if name = "DECIMAL" then .precision
      else .number := by
  intro name h
  rw [StoredType.ofName?, upper_of_mem_standardNames name h]
  revert name
  decide +kernel

theorem isLob_iff_of_mem_standardNames : ∀ name ∈ standardNames,
    "LOB".toList.isSuffixOf name.toList = true ↔ StoredType.ofName? name = some .lob := by
  intro name h
  rw [StoredType.ofName?, upper_of_mem_standardNames name h]
  revert name
  decide +kernel

theorem isSome_of_mem_sizedNames : ∀ name ∈ standardNames, name ∈ sizedNames →
    (StoredType.ofName? name).isSome = true := by
  intro name h
  rw [StoredType.ofName?, upper_of_mem_standardNames name h]
  revert name
  decide +kernel

theorem upper_base_mem_standardNames {d : String} (h : StandardType.accepts d = true) :
    upper (Declaration.base d) ∈ standardNames :=
  List.mem_append.mpr (StandardType.upper_base_mem h)

theorem ofName?_base_of_accepts {d : String} (h : StandardType.accepts d = true) :
    StoredType.ofName? (Declaration.base d) =
      StoredType.ofName? (upper (Declaration.base d)) := by
  unfold StoredType.ofName?
  rw [upper_of_mem_standardNames _ (upper_base_mem_standardNames h)]

/-! ## Whether there are sizes -/

/-- The part of the parameter that sizes are computed with: of a DECIMAL its precision. -/
def sizedPart (declaration : String) : String :=
  if upper (Declaration.base declaration) = "DECIMAL" then
    beforeComma (Declaration.parameter declaration)
  else Declaration.parameter declaration

/-- The declaration has no parameter, or sizes take nothing from it, or it is a number where they
do. -/
def Measured (declaration : String) : Prop :=
  Declaration.parameter declaration = "" ∨
    upper (Declaration.base declaration) ∈ lengthlessNames ∨
      (word? (trim (sizedPart declaration))).isSome

instance (declaration : String) : Decidable (Measured declaration) :=
  inferInstanceAs (Decidable (_ ∨ _ ∨ _))

section Recorded

variable {d : String} {c : Column}

theorem precision_parameter (hp : Declaration.parameter d ≠ "") :
    Declaration.precision "type" (Declaration.parameter d) =
      Declaration.number "type" (beforeComma (Declaration.parameter d)) := by
  have hb : isBlankText (Declaration.parameter d) = false := by
    rw [← Bool.not_eq_true]
    intro hblank
    have hnil := (trimChars_eq_nil_iff _).mpr (List.all_eq_true.mp hblank)
    apply hp
    rw [← Declaration.trim_parameter, trim, hnil, String.ofList_nil]
  rw [Declaration.precision, if_neg (by simp [hb])]

theorem readLength_of_recorded (accepted : StandardType.accepts d = true)
    (recorded : c.typing = .ofDeclaration (some d)) :
    readLength (.ofType? (storedType? c)) (declaredLength? c) =
      if Declaration.parameter d = "" ∨ upper (Declaration.base d) ∈ lengthlessNames then .ok 0
      else Declaration.number "type" (sizedPart d) := by
  rw [storedType?_of_recorded recorded, ofName?_base_of_accepts accepted,
    measure_of_mem_standardNames _ (upper_base_mem_standardNames accepted),
    declaredLength?_of_recorded recorded]
  by_cases hp : Declaration.parameter d = ""
  · simp [hp, readLength]
  by_cases hl : upper (Declaration.base d) ∈ lengthlessNames
  · simp [hp, hl, readLength, Measure.read]
  by_cases hd : upper (Declaration.base d) = "DECIMAL"
  · rw [hd] at hl
    simp [hp, hl, hd, readLength, Measure.read, sizedPart, precision_parameter hp]
  · simp [hp, hl, hd, readLength, Measure.read, sizedPart, lengthOf]

/-- A column of a standard type has a size in its row and one in a key if its declaration is
measured, and neither if it is not. -/
theorem sizes_of_accepted (accepted : Rule.standardType.holds (some d) = .ok true)
    (recorded : c.typing = .ofDeclaration (some d)) :
    (Measured d → (∃ n, rowSize c = .ok n) ∧ ∃ n, keySize c = .ok n) ∧
      (¬ Measured d → rowSize c = .error (.malformedNumber "type" (sizedPart d)) ∧
        keySize c = .error (.malformedNumber "type" (sizedPart d))) := by
  have haccepts : StandardType.accepts d = true := by simpa [Rule.holds] using accepted
  obtain ⟨f, hrow⟩ := rowSize_eq_map c
  obtain ⟨g, hkey⟩ := keySize_eq_map c
  rw [readLength_of_recorded haccepts recorded] at hrow hkey
  rw [hrow, hkey]
  split
  · next h =>
    have hm : Measured d := or_assoc.mp (.inl h)
    exact ⟨fun _ => ⟨⟨f 0, rfl⟩, ⟨g 0, rfl⟩⟩, fun hn => absurd hm hn⟩
  · next h =>
    have hm : Measured d ↔ (word? (trim (sizedPart d))).isSome := by
      rw [Measured, ← or_assoc]
      exact or_iff_right h
    rw [hm, Declaration.number]
    cases word? (trim (sizedPart d)) with
    | none => exact ⟨fun hw => absurd hw (by decide), fun _ => ⟨rfl, rfl⟩⟩
    | some k => exact ⟨fun _ => ⟨⟨f k, rfl⟩, ⟨g k, rfl⟩⟩, fun hn => absurd rfl hn⟩

/-- A precision is read up to the comma. -/
theorem sizes_of_decimal_with_scale :
    Rule.standardType.holds (some " Decimal(10, 2)") = .ok true ∧
      (Edit.declared "t" "n" true (some " Decimal(10, 2)")).typing =
        .ofDeclaration (some " Decimal(10, 2)") ∧
      Measured " Decimal(10, 2)" ∧
      (∃ n, rowSize (Edit.declared "t" "n" true (some " Decimal(10, 2)")) = .ok n) ∧
      ∃ n, keySize (Edit.declared "t" "n" true (some " Decimal(10, 2)")) = .ok n := by
  have accepted : Rule.standardType.holds (some " Decimal(10, 2)") = .ok true := by decide +kernel
  have measured : Measured " Decimal(10, 2)" := by decide +kernel
  exact ⟨accepted, rfl, measured, (sizes_of_accepted accepted rfl).1 measured⟩

/-- A length in megabytes keeps all rules on types, but it is no number. -/
theorem sizes_of_lob_in_megabytes :
    Rule.standardType.holds (some "BLOB(1M)") = .ok true ∧
      (∀ greatest, (Rule.numericPrecision greatest).holds (some "BLOB(1M)") = .ok true) ∧
      Rule.lobDimension.holds (some "BLOB(1M)") = .ok true ∧
      rowSize (Edit.declared "t" "n" true (some "BLOB(1M)")) =
        .error (.malformedNumber "type" "1M") ∧
      keySize (Edit.declared "t" "n" true (some "BLOB(1M)")) =
        .error (.malformedNumber "type" "1M") := by
  refine ⟨by decide +kernel, fun greatest => ?_, by decide +kernel, by decide +kernel,
    by decide +kernel⟩
  have hnumeric : StandardType.isNumeric "BLOB(1M)" = false := by decide
  simp [Rule.holds, Rule.precisionHolds, hnumeric]

/-! ## How large they are -/

/-- A column of a sized standard type takes room in its row exactly if, should it be a large object,
its length lies in some band; in a key it takes room exactly if it does so in its row. -/
theorem one_le_rowSize_iff_of_sized (accepted : Rule.standardType.holds (some d) = .ok true)
    (sized : upper (Declaration.base d) ∈ sizedNames)
    (recorded : c.typing = .ofDeclaration (some d)) {n : Nat} (size : rowSize c = .ok n) :
    (1 ≤ n ↔ (StandardType.isLob d = true →
      ∀ m, Declaration.number "type" (Declaration.parameter d) = .ok m →
        m ≤ greatestLobLength)) ∧
      ∃ k, keySize c = .ok k ∧ (1 ≤ k ↔ 1 ≤ n) := by
  have haccepts : StandardType.accepts d = true := by simpa [Rule.holds] using accepted
  have hname := upper_base_mem_standardNames haccepts
  have htype : storedType? c = StoredType.ofName? (upper (Declaration.base d)) := by
    rw [storedType?_of_recorded recorded, ofName?_base_of_accepts haccepts]
  have hlob : StandardType.isLob d = true ↔ storedType? c = some .lob := by
    rw [htype]
    exact isLob_iff_of_mem_standardNames _ hname
  have hknown : (storedType? c).isSome = true := by
    rw [htype]
    exact isSome_of_mem_sizedNames _ hname sized
  have hblank : ∀ m, Declaration.number "type" "" ≠ .ok m := fun m h => by cases h
  refine ⟨?_, keySize_of_rowSize size⟩
  rw [one_le_iff_of_rowSize size, hlob, declaredLength?_of_recorded recorded,
    and_iff_right hknown]
  by_cases hp : Declaration.parameter d = ""
  · simp [hp, hblank]
  · simp [hp, lengthOf]

/-- The greatest length of all bands still takes room. -/
theorem rowSize_of_greatest_lob :
    Rule.standardType.holds (some "blob(2147483647)") = .ok true ∧
      upper (Declaration.base "blob(2147483647)") ∈ sizedNames ∧
      (Edit.declared "t" "n" true (some "blob(2147483647)")).typing =
        .ofDeclaration (some "blob(2147483647)") ∧
      rowSize (Edit.declared "t" "n" true (some "blob(2147483647)")) = .ok 317 ∧
      (StandardType.isLob "blob(2147483647)" = true →
        ∀ m, Declaration.number "type" (Declaration.parameter "blob(2147483647)") = .ok m →
          m ≤ greatestLobLength) := by
  have accepted : Rule.standardType.holds (some "blob(2147483647)") = .ok true := by
    decide +kernel
  have sized : upper (Declaration.base "blob(2147483647)") ∈ sizedNames := by decide +kernel
  have size : rowSize (Edit.declared "t" "n" true (some "blob(2147483647)")) = .ok 317 := by
    decide +kernel
  exact ⟨accepted, sized, rfl, size,
    (one_le_rowSize_iff_of_sized accepted sized rfl size).1.mp (by decide)⟩

/-- A large object beyond all bands is of a standard type, but takes no room. -/
theorem rowSize_of_lob_beyond_bands :
    Rule.standardType.holds (some "BLOB(2147483648)") = .ok true ∧
      (Edit.declared "t" "n" true (some "BLOB(2147483648)")).typing =
        .ofDeclaration (some "BLOB(2147483648)") ∧
      rowSize (Edit.declared "t" "n" true (some "BLOB(2147483648)")) = .ok 0 := by
  decide +kernel

end Recorded

end Storage

end MigrationAudit
