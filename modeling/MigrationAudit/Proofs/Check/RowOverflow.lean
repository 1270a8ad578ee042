import Mathlib.Algebra.Order.Ring.Nat
import Mathlib.Data.List.Induction
import MigrationAudit.Check.Budget
import MigrationAudit.Proofs.Changelog.Plain
import MigrationAudit.Proofs.Storage.TrueSize

/-!
# Rows beyond their budget

Whatever lengths are declared, the columns of a table fit their row by their true sizes, or one of
them is the first to exceed the limit, or one is reached whose length cannot be read
(`fits_or_exceeds_or_breaks`).  The check of the row, which adds up in 64 bits, finds nothing in the
first case, blames the column in the second and fails in the third, since sums that are cut off
exceed the limit as the true ones do (`overflow?_append`).
-/

namespace MigrationAudit

namespace Storage

variable {limit : Nat} {before after : List Column} {c : Column}

/-- The lengths of the columns can be read, and their true sizes add up to a sum that keeps the
limit. -/
def Sums (limit : Nat) (cs : List Column) (sum : Nat) : Prop :=
  ∃ sizes : List Nat, cs.map trueRowSize = sizes.map .ok ∧ sizes.sum = sum ∧ sum ≤ limit

/-- The columns before keep the limit, and with this column they exceed it. -/
def Exceeds (limit : Nat) (before : List Column) (c : Column) : Prop :=
  ∃ sum size, Sums limit before sum ∧ trueRowSize c = .ok size ∧ limit < sum + size

/-- The columns before keep the limit, and the length of this column cannot be read. -/
def Breaks (limit : Nat) (before : List Column) (c : Column) (failure : Failure) : Prop :=
  ∃ sum, Sums limit before sum ∧ lengthRead c = .error failure

theorem sums_nil (limit : Nat) : Sums limit [] 0 := ⟨[], rfl, rfl, Nat.zero_le limit⟩

theorem Sums.append {sum size : Nat} (h : Sums limit before sum) (hc : trueRowSize c = .ok size)
    (hle : sum + size ≤ limit) : Sums limit (before ++ [c]) (sum + size) := by
  obtain ⟨sizes, hsizes, hsum, -⟩ := h
  refine ⟨sizes ++ [size], ?_, ?_, hle⟩
  · rw [List.map_append, List.map_append, hsizes, List.map_singleton, List.map_singleton, hc]
  · rw [List.sum_append, hsum, List.sum_singleton]

theorem fits_or_exceeds_or_breaks (limit : Nat) (cs : List Column) :
    (∃ sum, Sums limit cs sum) ∨
      (∃ before c after, cs = before ++ c :: after ∧ Exceeds limit before c) ∨
      ∃ before c after failure, cs = before ++ c :: after ∧ Breaks limit before c failure := by
  induction cs using List.reverseRecOn with
  | nil => exact .inl ⟨0, sums_nil limit⟩
  | append_singleton cs c ih =>
    rcases ih with ⟨sum, hsum⟩ | ⟨before, d, after, rfl, h⟩ | ⟨before, d, after, failure, rfl, h⟩
    · rcases hc : trueRowSize c with failure | size
      · exact .inr (.inr ⟨cs, c, [], failure, rfl, sum, hsum, trueRowSize_eq_error_iff.mp hc⟩)
      · rcases Nat.lt_or_ge limit (sum + size) with hlt | hle
        · exact .inr (.inl ⟨cs, c, [], rfl, sum, size, hsum, hc, hlt⟩)
        · exact .inl ⟨sum + size, hsum.append hc hle⟩
    · exact .inr (.inl ⟨before, d, after ++ [c], by simp, h⟩)
    · exact .inr (.inr ⟨before, d, after ++ [c], failure, by simp, h⟩)

end Storage

namespace Check

open Storage

variable {limit : Nat} {before after : List Column} {c : Column}

/-- Sums that are cut off exceed the limit as the true ones do, so the check may as well add up the
true sizes. -/
theorem overflow?_cons (hl : limit < 2 ^ 63) (total : Nat) (c : Column) (cs : List Column) :
    overflow? limit total (c :: cs) = (trueRowSize c).bind fun size =>
      if limit < total + size then .ok (some c) else overflow? limit (total + size) cs := by
  have ha := rowSize_agrees c
  rw [overflow?]
  revert ha
  rcases rowSize c with failure | size <;> rcases trueRowSize c with failure' | size' <;> intro ha
  · exact congrArg Except.error ha
  · exact ha.elim
  · exact ha.elim
  · have hsize : size = size' ∨ limit < size ∧ limit < size' :=
      ha.imp_right fun h => ⟨hl.trans_le h.1, hl.trans_le h.2⟩
    have hexceeds : limit < saturatingAdd total size ↔ limit < total + size' := by
      unfold saturatingAdd Text.maxWord
      omega
    simp only [bind, Except.bind, hexceeds]
    split
    · rfl
    · next h =>
      have hsum : saturatingAdd total size = total + size' := by
        unfold saturatingAdd Text.maxWord
        omega
      rw [hsum]

theorem overflow?_append (hl : limit < 2 ^ 63) (after : List Column) :
    ∀ {before : List Column} {sizes : List Nat} {total : Nat},
      before.map trueRowSize = sizes.map .ok → total + sizes.sum ≤ limit →
        overflow? limit total (before ++ after) = overflow? limit (total + sizes.sum) after
  | [], [], _, _, _ => rfl
  | [], _ :: _, _, h, _ => by simp at h
  | _ :: _, [], _, h, _ => by simp at h
  | c :: before, size :: sizes, total, h, hle => by
    obtain ⟨hc, hbefore⟩ := List.cons.inj h
    rw [List.sum_cons, ← Nat.add_assoc] at hle ⊢
    rw [List.cons_append, overflow?_cons hl, hc, Except.bind,
      if_neg (Nat.not_lt.mpr ((Nat.le_add_right _ _).trans hle)),
      overflow?_append hl after hbefore hle]

theorem overflow?_of_sums (hl : limit < 2 ^ 63) {sum : Nat} (h : Sums limit before sum)
    (after : List Column) :
    overflow? limit 0 (before ++ after) = overflow? limit sum after := by
  obtain ⟨sizes, hsizes, rfl, hle⟩ := h
  have hrest : overflow? limit 0 (before ++ after) = overflow? limit (0 + sizes.sum) after :=
    overflow?_append hl after hsizes (by rwa [Nat.zero_add])
  rwa [Nat.zero_add] at hrest

theorem overflow?_of_exceeds (hl : limit < 2 ^ 63) (h : Exceeds limit before c)
    (after : List Column) : overflow? limit 0 (before ++ c :: after) = .ok (some c) := by
  obtain ⟨sum, size, hsum, hc, hlt⟩ := h
  rw [overflow?_of_sums hl hsum, overflow?_cons hl, hc, Except.bind, if_pos hlt]

theorem overflow?_of_breaks (hl : limit < 2 ^ 63) {failure : Failure}
    (h : Breaks limit before c failure) (after : List Column) :
    overflow? limit 0 (before ++ c :: after) = .error failure := by
  obtain ⟨sum, hsum, hc⟩ := h
  rw [overflow?_of_sums hl hsum, overflow?_cons hl, trueRowSize_eq_error_iff.mpr hc, Except.bind]

theorem overflow?_eq_none_of_sums (hl : limit < 2 ^ 63) {cs : List Column} {sum : Nat}
    (h : Sums limit cs sum) : overflow? limit 0 cs = .ok none := by
  have hrest := overflow?_of_sums hl h []
  rwa [List.append_nil] at hrest

/-- A column is blamed exactly if it is the first to exceed the limit. -/
theorem overflow?_eq_some_iff (hl : limit < 2 ^ 63) {cs : List Column} :
    overflow? limit 0 cs = .ok (some c) ↔
      ∃ before after, cs = before ++ c :: after ∧ Exceeds limit before c := by
  constructor
  · intro h
    rcases fits_or_exceeds_or_breaks limit cs with
      ⟨sum, hs⟩ | ⟨before, d, after, rfl, he⟩ | ⟨before, d, after, failure, rfl, hb⟩
    · rw [overflow?_eq_none_of_sums hl hs] at h
      cases h
    · rw [overflow?_of_exceeds hl he after] at h
      cases h
      exact ⟨before, after, rfl, he⟩
    · rw [overflow?_of_breaks hl hb after] at h
      cases h
  · rintro ⟨before, after, rfl, he⟩
    exact overflow?_of_exceeds hl he after

/-- The sum cannot be told exactly if a length that cannot be read is reached within the limit. -/
theorem overflow?_eq_error_iff (hl : limit < 2 ^ 63) {cs : List Column} {failure : Failure} :
    overflow? limit 0 cs = .error failure ↔
      ∃ before c after, cs = before ++ c :: after ∧ Breaks limit before c failure := by
  constructor
  · intro h
    rcases fits_or_exceeds_or_breaks limit cs with
      ⟨sum, hs⟩ | ⟨before, d, after, rfl, he⟩ | ⟨before, d, after, failure, rfl, hb⟩
    · rw [overflow?_eq_none_of_sums hl hs] at h
      cases h
    · rw [overflow?_of_exceeds hl he after] at h
      cases h
    · rw [overflow?_of_breaks hl hb after] at h
      cases h
      exact ⟨before, d, after, rfl, hb⟩
  · rintro ⟨before, c, after, rfl, hb⟩
    exact overflow?_of_breaks hl hb after

/-- The issue that blames a column of the table. -/
def rowIssue (place : ChangePlace) (table : String) (limit : Nat) (c : Column) : Issue :=
  Issue.ofChange place (some "column") (.rowTooLarge table c.name limit)

section Findings

variable {store : Store} {place : ChangePlace} {table : String}
  (ht : place.change.table? = some table)
include ht

theorem rowBudget_eq (limit : Nat) (store : Store) :
    rowBudget limit store place = (overflow? limit 0 (store.columns (.table table))).map fun c =>
      (c.map (rowIssue place table limit)).toList := by
  simp only [rowBudget, ht]
  rcases overflow? limit 0 (store.columns (.table table)) with failure | _ | c <;> rfl

theorem rowBudget_eq_issue_iff {issue : Issue} :
    rowBudget limit store place = .ok [issue] ↔
      ∃ c, overflow? limit 0 (store.columns (.table table)) = .ok (some c) ∧
        issue = rowIssue place table limit c := by
  rw [rowBudget_eq ht]
  rcases overflow? limit 0 (store.columns (.table table)) with failure | _ | c <;>
    simp [Except.map, eq_comm]

theorem rowBudget_eq_error_iff {failure : Failure} :
    rowBudget limit store place = .error failure ↔
      overflow? limit 0 (store.columns (.table table)) = .error failure := by
  rw [rowBudget_eq ht]
  rcases overflow? limit 0 (store.columns (.table table)) with failure | _ | c <;>
    simp [Except.map]

theorem rowBudget_eq_nil_iff :
    rowBudget limit store place = .ok [] ↔
      overflow? limit 0 (store.columns (.table table)) = .ok none := by
  rw [rowBudget_eq ht]
  rcases overflow? limit 0 (store.columns (.table table)) with failure | _ | c <;>
    simp [Except.map]

end Findings

/-- The check of the row of a table blames a column exactly if the columns up to it have lengths
that can be read and it is the first with which their true sizes exceed the limit.  It fails exactly
if a column is reached before whose length is no number, and otherwise finds nothing. -/
theorem rowBudget_exact (hl : limit < 2 ^ 63) {store : Store} {place : ChangePlace} {table : String}
    (ht : place.change.table? = some table) :
    (∀ issue, rowBudget limit store place = .ok [issue] ↔
      ∃ before c after, store.columns (.table table) = before ++ c :: after ∧
        Exceeds limit before c ∧ issue = rowIssue place table limit c) ∧
    (∀ failure, rowBudget limit store place = .error failure ↔
      ∃ before c after, store.columns (.table table) = before ++ c :: after ∧
        Breaks limit before c failure) ∧
    (∀ failure, rowBudget limit store place = .error failure →
      ∃ value, failure = .malformedNumber "type" value) ∧
    (rowBudget limit store place = .ok [] ↔
      ∀ before c after, store.columns (.table table) = before ++ c :: after →
        ¬ Exceeds limit before c ∧ ∀ failure, ¬ Breaks limit before c failure) := by
  rw [rowBudget_eq_nil_iff ht]
  simp only [rowBudget_eq_issue_iff ht, rowBudget_eq_error_iff ht]
  generalize store.columns (.table table) = cs
  refine ⟨fun issue => ?_, fun failure => overflow?_eq_error_iff hl, fun failure h => ?_, ?_, ?_⟩
  · simp only [overflow?_eq_some_iff hl]
    constructor
    · rintro ⟨c, ⟨before, after, hcs, he⟩, hi⟩
      exact ⟨before, c, after, hcs, he, hi⟩
    · rintro ⟨before, c, after, hcs, he, hi⟩
      exact ⟨c, ⟨before, after, hcs, he⟩, hi⟩
  · obtain ⟨before, c, after, -, sum, -, hc⟩ := (overflow?_eq_error_iff hl).mp h
    exact lengthRead_eq_error hc
  · intro h before c after hcs
    constructor
    · intro he
      rw [(overflow?_eq_some_iff hl).mpr ⟨before, after, hcs, he⟩] at h
      cases h
    · intro failure hb
      rw [(overflow?_eq_error_iff hl).mpr ⟨before, c, after, hcs, hb⟩] at h
      cases h
  · intro h
    rcases ho : overflow? limit 0 cs with failure | _ | c
    · obtain ⟨before, c, after, hcs, hb⟩ := (overflow?_eq_error_iff hl).mp ho
      exact absurd hb ((h before c after hcs).2 failure)
    · rfl
    · obtain ⟨before, after, hcs, he⟩ := (overflow?_eq_some_iff hl).mp ho
      exact absurd he (h before c after hcs).1

/-- A column of a table `t` with a type and a length as declared. -/
def declaredColumn (name type length : String) : Column :=
  { Column.fresh "t" name with dataType := some type, length := some length }

/-- A table of a text in its row, a time with the longest precision there is, and a column whose
length is no number. -/
def longTable : Store :=
  ⟨[declaredColumn "a" "varchar" "20", declaredColumn "b" "timestamp" "18446744073709551615",
    declaredColumn "c" "char" "max"].map fun c => (.column "t" c.name, .column c)⟩

/-- The column with the longest length is blamed, and the one behind it is not reached. -/
theorem rowBudget_exact_longTable :
    let place := ChangePlace.alone (.ofTexts .dropTable [(.tableName, "t")] [])
    let b := declaredColumn "b" "timestamp" "18446744073709551615"
    4005 < 2 ^ 63 ∧ place.change.table? = some "t" ∧
      Exceeds 4005 [declaredColumn "a" "varchar" "20"] b ∧
      rowBudget 4005 longTable place = .ok [rowIssue place "t" 4005 b] := by
  intro place b
  have hl : 4005 < 2 ^ 63 := by decide
  have ht : place.change.table? = some "t" := by decide
  have he : Exceeds 4005 [declaredColumn "a" "varchar" "20"] b :=
    ⟨25, 9223372036854775817, ⟨[25], by decide, rfl, by decide⟩, by decide, by decide⟩
  have hcs : longTable.columns (.table "t") =
      [declaredColumn "a" "varchar" "20"] ++ b :: [declaredColumn "c" "char" "max"] := by decide
  exact ⟨hl, ht, he, ((rowBudget_exact hl ht).1 _).mpr ⟨_, _, _, hcs, he, rfl⟩⟩

end Check

end MigrationAudit
