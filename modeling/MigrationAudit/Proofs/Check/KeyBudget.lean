import Mathlib.Algebra.BigOperators.Group.List.Basic
import Mathlib.Data.List.Perm.Basic
import MigrationAudit.Proofs.Check.RowOverflow

/-!
# Keys beyond their budget

The sizes of the columns that an index names are added up in 64 bits.  A sum that is cut off exceeds
the limit of a key as the true one does, whatever lengths are declared (`keyTotal_agrees`).  So
something is found exactly if the true sum exceeds the limit, and the check fails exactly if the
length of some column cannot be read.  Either does not depend on the order in which the index names
its columns (`keyBudget_exact`).
-/

namespace MigrationAudit

namespace Storage

/-- The column has a length that its type reads, and this length is no number. -/
def Unreadable (c : Column) : Prop := ∃ failure, lengthRead c = .error failure

theorem exists_sizes_or_unreadable : ∀ cs : List Column,
    (∃ sizes : List Nat, cs.map trueKeySize = sizes.map .ok) ∨ ∃ c ∈ cs, Unreadable c
  | [] => .inl ⟨[], rfl⟩
  | c :: cs => by
    rcases hc : trueKeySize c with failure | size
    · exact .inr ⟨c, List.mem_cons_self, failure, trueKeySize_eq_error_iff.mp hc⟩
    · rcases exists_sizes_or_unreadable cs with ⟨sizes, hsizes⟩ | ⟨d, hd, hunreadable⟩
      · exact .inl ⟨size :: sizes, by rw [List.map_cons, hc, hsizes, List.map_cons]⟩
      · exact .inr ⟨d, List.mem_cons_of_mem c hd, hunreadable⟩

theorem not_unreadable_of_sizes {cs : List Column} {sizes : List Nat}
    (h : cs.map trueKeySize = sizes.map .ok) : ∀ c ∈ cs, ¬ Unreadable c := by
  rintro c hc ⟨failure, hread⟩
  have told : trueKeySize c ∈ sizes.map .ok := h ▸ List.mem_map_of_mem hc
  rw [trueKeySize_eq_error_iff.mpr hread] at told
  simp at told

/-- In another order the columns have sizes with the same sum. -/
theorem exists_sizes_perm {cs cs' : List Column} {sizes : List Nat} (same : cs'.Perm cs)
    (h : cs.map trueKeySize = sizes.map .ok) :
    ∃ sizes' : List Nat, cs'.map trueKeySize = sizes'.map .ok ∧ sizes'.sum = sizes.sum := by
  rcases exists_sizes_or_unreadable cs' with ⟨sizes', h'⟩ | ⟨c, hc, hunreadable⟩
  · have mapped : (sizes'.map .ok : List (Except Failure Nat)).Perm (sizes.map .ok) := by
      rw [← h, ← h']
      exact same.map trueKeySize
    exact ⟨sizes', h', ((List.map_perm_map_iff fun _ _ => Except.ok.inj).mp mapped).sum_eq⟩
  · exact absurd hunreadable (not_unreadable_of_sizes h c (same.mem_iff.mp hc))

end Storage

namespace Check

open Storage

theorem keyTotal_agrees : ∀ {cs : List Column} {sizes : List Nat} {total total' : Nat},
    cs.map trueKeySize = sizes.map .ok → Agree total total' →
      ∃ sum, keyTotal total cs = .ok sum ∧ Agree sum (total' + sizes.sum)
  | [], [], total, _, _, h => ⟨total, rfl, h⟩
  | [], _ :: _, _, _, h, _ => by cases h
  | _ :: _, [], _, _, h, _ => by cases h
  | c :: cs, size :: sizes, total, total', h, htotal => by
    obtain ⟨hc, hcs⟩ := List.cons.inj h
    have agrees := keySize_agrees c
    rw [hc] at agrees
    obtain ⟨size', hsize', hagree⟩ := agrees.exists_eq_ok
    obtain ⟨sum, hsum, hagrees⟩ := keyTotal_agrees hcs (htotal.saturatingAdd hagree)
    refine ⟨sum, ?_, ?_⟩
    · rw [keyTotal, hsize']
      exact hsum
    · rwa [List.sum_cons, ← Nat.add_assoc]

/-- The sum fails by the first length that cannot be read. -/
theorem keyTotal_eq_error {failure : Failure} : ∀ {cs : List Column} {total : Nat},
    keyTotal total cs = .error failure → ∃ c ∈ cs, lengthRead c = .error failure
  | [], _, h => by cases h
  | c :: cs, total, h => by
    rw [keyTotal] at h
    rcases hc : keySize c with failure' | size <;> rw [hc] at h
    · obtain rfl := Except.error.inj h
      exact ⟨c, List.mem_cons_self, keySize_eq_error_iff.mp hc⟩
    · obtain ⟨d, hd, hread⟩ := keyTotal_eq_error h
      exact ⟨d, List.mem_cons_of_mem c hd, hread⟩

theorem keyTotal_of_unreadable : ∀ {cs : List Column} (total : Nat), (∃ c ∈ cs, Unreadable c) →
    ∃ failure, keyTotal total cs = .error failure
  | [], _, h => by simp at h
  | c :: cs, total, h => by
    rw [keyTotal]
    rcases hc : keySize c with failure | size
    · exact ⟨failure, rfl⟩
    · refine keyTotal_of_unreadable (saturatingAdd total size) ?_
      obtain ⟨d, hd, failure, hread⟩ := h
      rcases List.mem_cons.mp hd with rfl | hd
      · rw [keySize_eq_error_iff.mpr hread] at hc
        cases hc
      · exact ⟨d, hd, failure, hread⟩

/-- The issue that blames the key of an index. -/
def keyIssue (place : ChangePlace) (table : String) (limit : Nat) : Issue :=
  columnIssue place none (.keyTooLarge (place.change.text? .indexName) table limit)

variable {limit : Nat} {store : Store} {place : ChangePlace} {table : String}

section Findings

variable (he : place.change.element = .createIndex)
  (ht : place.change.text? .tableName = some table)
include he ht

theorem keyBudget_eq (limit : Nat) (store : Store) :
    keyBudget limit store place =
      (keyTotal 0 (indexedColumns store table place.change)).map fun total =>
        if total ≤ limit then [] else [keyIssue place table limit] := by
  have required : place.change.require .tableName = .ok table := by
    unfold Change.require
    rw [ht]
  simp only [keyBudget, if_pos he, required, bind, Except.bind]
  rcases keyTotal 0 (indexedColumns store table place.change) with failure | total <;> rfl

theorem keyBudget_of_sizes (hl : limit < 2 ^ 63) {sizes : List Nat}
    (h : (indexedColumns store table place.change).map trueKeySize = sizes.map .ok) :
    keyBudget limit store place =
      .ok (if sizes.sum ≤ limit then [] else [keyIssue place table limit]) := by
  obtain ⟨sum, hsum, hagree⟩ := keyTotal_agrees h (.inl rfl : Agree 0 0)
  rw [Nat.zero_add] at hagree
  rw [keyBudget_eq he ht, hsum]
  simp only [Except.map, hagree.le_iff hl]

theorem keyBudget_eq_error {failure : Failure} (h : keyBudget limit store place = .error failure) :
    ∃ c ∈ indexedColumns store table place.change, lengthRead c = .error failure := by
  rw [keyBudget_eq he ht] at h
  rcases htotal : keyTotal 0 (indexedColumns store table place.change) with failure' | total
  · rw [htotal] at h
    obtain rfl := Except.error.inj h
    exact keyTotal_eq_error htotal
  · rw [htotal] at h
    cases h

theorem keyBudget_of_unreadable (limit : Nat)
    (h : ∃ c ∈ indexedColumns store table place.change, Unreadable c) :
    ∃ failure, keyBudget limit store place = .error failure := by
  obtain ⟨failure, htotal⟩ := keyTotal_of_unreadable 0 h
  exact ⟨failure, by rw [keyBudget_eq he ht, htotal]; rfl⟩

end Findings

/-- The same change in the same place, with other nested columns. -/
def withNested (place : ChangePlace) (nested : List NestedColumn) : ChangePlace :=
  { place with change := { place.change with nested } }

theorem indexedColumns_perm {c : Change} {nested : List NestedColumn}
    (same : nested.Perm c.nested) (store : Store) (table : String) :
    (indexedColumns store table { c with nested }).Perm (indexedColumns store table c) := by
  have columns : ({ c with nested } : Change).columns.Perm c.columns := by
    unfold Change.columns
    split
    · exact same
    · exact .refl _
  exact (columns.filterMap _).filterMap _

/-- Of a key of columns whose lengths can all be read something is found exactly if their true sizes
add up to more than the limit; otherwise the check fails, by a length that is no number.  The order
of the columns does not matter to any of this. -/
theorem keyBudget_exact (store : Store) (hl : limit < 2 ^ 63)
    (he : place.change.element = .createIndex)
    (ht : place.change.text? .tableName = some table) :
    ((∃ failure, keyBudget limit store place = .error failure) ↔
      ∃ c ∈ indexedColumns store table place.change, Unreadable c) ∧
    (∀ failure, keyBudget limit store place = .error failure →
      ∃ value, failure = .malformedNumber "type" value) ∧
    (∀ sizes : List Nat,
      (indexedColumns store table place.change).map trueKeySize = sizes.map .ok →
        keyBudget limit store place =
          .ok (if sizes.sum ≤ limit then [] else [keyIssue place table limit])) ∧
    ∀ nested : List NestedColumn, nested.Perm place.change.nested →
      (keyBudget limit store (withNested place nested)).toOption =
        (keyBudget limit store place).toOption := by
  refine ⟨⟨fun ⟨failure, h⟩ => ?_, keyBudget_of_unreadable he ht limit⟩, fun failure h => ?_,
    fun sizes => keyBudget_of_sizes he ht hl, fun nested same => ?_⟩
  · obtain ⟨c, hc, hread⟩ := keyBudget_eq_error he ht h
    exact ⟨c, hc, failure, hread⟩
  · obtain ⟨c, -, hread⟩ := keyBudget_eq_error he ht h
    exact lengthRead_eq_error hread
  · have he' : (withNested place nested).change.element = .createIndex := he
    have ht' : (withNested place nested).change.text? .tableName = some table := ht
    have columns : (indexedColumns store table (withNested place nested).change).Perm
        (indexedColumns store table place.change) := indexedColumns_perm same store table
    rcases exists_sizes_or_unreadable (indexedColumns store table place.change) with
      ⟨sizes, hsizes⟩ | ⟨c, hc, hunreadable⟩
    · obtain ⟨sizes', hsizes', hsum⟩ := exists_sizes_perm columns hsizes
      rw [keyBudget_of_sizes he ht hl hsizes, keyBudget_of_sizes he' ht' hl hsizes', hsum]
      rfl
    · obtain ⟨failure, h⟩ :=
        keyBudget_of_unreadable he ht limit ⟨c, hc, hunreadable⟩
      obtain ⟨failure', h'⟩ :=
        keyBudget_of_unreadable he' ht' limit ⟨c, columns.mem_iff.mpr hc, hunreadable⟩
      rw [h, h']
      rfl

/-- A key exceeds any limit by a length close to 64 bits, wherever the column stands; columns that
are not known count for nothing, and a length that is no number breaks the sum. -/
theorem keyBudget_exact_longTable :
    let index (columns : List String) := ChangePlace.alone (.ofIndex "i" "t" columns)
    let long := index ["b", "a", "nowhere", "a"]
    let limit := 2 ^ 63 - 1
    limit < 2 ^ 63 ∧ long.change.element = .createIndex ∧
      long.change.text? .tableName = some "t" ∧
      (indexedColumns longTable "t" long.change).map trueKeySize =
        [2 ^ 63 + 9, 23, 23].map .ok ∧
      keyBudget limit longTable long = .ok [keyIssue long "t" limit] ∧
      (keyBudget limit longTable (withNested long long.change.nested.reverse)).toOption =
        some [keyIssue long "t" limit] ∧
      keyBudget 46 longTable (index ["a", "a"]) = .ok [] ∧
      ∃ failure, keyBudget limit longTable (index ["b", "c"]) = .error failure := by
  intro index long limit
  have hl : limit < 2 ^ 63 := by decide
  have creates : ∀ columns, (index columns).change.element = .createIndex := fun _ => rfl
  have onTable : ∀ columns, (index columns).change.text? .tableName = some "t" := fun _ => rfl
  have hsizes : (indexedColumns longTable "t" long.change).map trueKeySize =
    [2 ^ 63 + 9, 23, 23].map .ok := by decide +kernel
  obtain ⟨-, -, sums, anyOrder⟩ := keyBudget_exact longTable hl (creates _) (onTable _)
  have exceeds : keyBudget limit longTable long = .ok [keyIssue long "t" limit] := sums _ hsizes
  have reversed := anyOrder _ (List.reverse_perm long.change.nested)
  have small : 46 < 2 ^ 63 := by decide
  have fits := (keyBudget_exact longTable small (creates ["a", "a"]) (onTable _)).2.2.1 [23, 23]
    (by decide +kernel)
  have breaks := (keyBudget_exact longTable hl (creates ["b", "c"]) (onTable _)).1.mpr
    ⟨declaredColumn "c" "char" "max", by decide, .malformedNumber "type" "max", by decide +kernel⟩
  exact ⟨hl, creates _, onTable _, hsizes, exceeds, by rw [reversed, exceeds]; rfl, fits, breaks⟩

end Check

end MigrationAudit
