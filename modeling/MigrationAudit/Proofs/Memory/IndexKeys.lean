import MigrationAudit.Memory.Indexes
import MigrationAudit.Proofs.Text.Order

/-!
# Keys of indexes

The key of an index depends on the set of its columns alone (`Indexes.keyOf_congr`), since texts put
in order are strictly increasing (`Text.pairwise_ordered`).  It is written with hyphens, so it tells
the pieces between hyphens of all its names and no more (`Indexes.keyOf_eq_iff`).  Where no name
holds a hyphen these are the names themselves, and the key tells the table and the set of columns
(`Indexes.eq_of_keyOf_eq`).
-/

namespace MigrationAudit

namespace Indexes

variable {t u : String} {ns ms : List String}

theorem keyOf_congr (table : String) {ns ms : List String} (h : ∀ n, n ∈ ns ↔ n ∈ ms) :
    keyOf table ns = keyOf table ms := by
  unfold keyOf
  rw [Text.ordered_eq_iff.mpr h]

/-! ## What a key tells -/

/-- The pieces between hyphens of the table's name and of the columns' names in order. -/
def hyphenPieces (table : String) (columns : List String) : List (List Char) :=
  (table :: Text.ordered columns).flatMap fun n => n.toList.splitOn '-'

theorem splitOn_foldl_key : ∀ (ns : List String) (key : String),
    (ns.foldl (fun key column => key ++ "-" ++ column) key).toList.splitOn '-' =
      (key :: ns).flatMap fun n => n.toList.splitOn '-'
  | [], key => by simp
  | n :: ns, key => by
    have step : (key ++ "-" ++ n).toList = key.toList ++ '-' :: n.toList := by
      simp [String.toList_append]
    rw [List.foldl_cons, splitOn_foldl_key ns, List.flatMap_cons, step,
      List.splitOn_append_cons_self, List.append_assoc]
    rfl

theorem keyOf_eq_iff : keyOf t ns = keyOf u ms ↔ hyphenPieces t ns = hyphenPieces u ms := by
  have pieces : ∀ t ns, (keyOf t ns).toList.splitOn '-' = hyphenPieces t ns :=
    fun t ns => splitOn_foldl_key _ t
  have joined : ∀ t ns, ['-'].intercalate (hyphenPieces t ns) = (keyOf t ns).toList :=
    fun t ns => by rw [← pieces, List.intercalate_splitOn]
  refine ⟨fun h => by rw [← pieces, h, pieces], fun h => String.toList_inj.mp ?_⟩
  rw [← joined, h, joined]

theorem hyphenPieces_of_not_mem (ht : '-' ∉ t.toList) (hns : ∀ n ∈ ns, '-' ∉ n.toList) :
    hyphenPieces t ns = (t :: Text.ordered ns).map String.toList := by
  have whole : ∀ n ∈ t :: Text.ordered ns, n.toList.splitOn '-' = [n.toList] := by
    intro n hn
    apply List.splitOn_eq_singleton
    rcases List.mem_cons.mp hn with rfl | hn
    · exact ht
    · exact hns n (Text.mem_ordered_iff.mp hn)
  rw [hyphenPieces, List.flatMap_congr whole, List.map_eq_flatMap]

/-- Without hyphens in them, the key tells the table and the set of columns. -/
theorem eq_of_keyOf_eq {t u : String} {ns ms : List String} (ht : '-' ∉ t.toList)
    (hu : '-' ∉ u.toList) (hns : ∀ n ∈ ns, '-' ∉ n.toList) (hms : ∀ n ∈ ms, '-' ∉ n.toList)
    (h : keyOf t ns = keyOf u ms) : t = u ∧ ∀ n, n ∈ ns ↔ n ∈ ms := by
  rw [keyOf_eq_iff, hyphenPieces_of_not_mem ht hns, hyphenPieces_of_not_mem hu hms] at h
  have same := (List.map_injective_iff.mpr fun _ _ => String.toList_inj.mp) h
  obtain ⟨table, columns⟩ := List.cons.inj same
  exact ⟨table, Text.ordered_eq_iff.mp columns⟩

/-- Two tables with columns that differ, and yet their names are the same when cut at hyphens. -/
def Confused (t : String) (ns : List String) (u : String) (ms : List String) : Prop :=
  hyphenPieces t ns = hyphenPieces u ms ∧ ¬ (t = u ∧ ∀ n, n ∈ ns ↔ n ∈ ms)

/-- Equal keys are keys of the same table and the same set of columns, and conversely, exactly for
those that hyphens do not confuse; and where no name holds a hyphen, none are confused. -/
theorem keyOf_tells_iff (t u : String) (ns ms : List String) :
    ((keyOf t ns = keyOf u ms ↔ t = u ∧ ∀ n, n ∈ ns ↔ n ∈ ms) ↔ ¬ Confused t ns u ms) ∧
      ((∀ n ∈ t :: u :: (ns ++ ms), '-' ∉ n.toList) → ¬ Confused t ns u ms) := by
  constructor
  · constructor
    · rintro h ⟨hpieces, hne⟩
      exact hne (h.mp (keyOf_eq_iff.mpr hpieces))
    · intro h
      constructor
      · intro hkey
        by_contra hne
        exact h ⟨keyOf_eq_iff.mp hkey, hne⟩
      · rintro ⟨rfl, hn⟩
        exact keyOf_congr t hn
  · rintro hno ⟨hpieces, hne⟩
    refine hne (eq_of_keyOf_eq (hno t ?_) (hno u ?_) (fun n hn => hno n ?_) (fun n hn => hno n ?_)
      (keyOf_eq_iff.mpr hpieces))
    all_goals simp [*]

/-- A hyphen in the name of a table may stand for one between a table and a column. -/
theorem keyOf_confused_by_hyphen :
    ¬ (keyOf "orders-archive" ["code"] = keyOf "orders" ["archive", "code"] ↔
      "orders-archive" = "orders" ∧ ∀ n, n ∈ ["code"] ↔ n ∈ ["archive", "code"]) := by
  intro h
  have hkey : keyOf "orders-archive" ["code"] = keyOf "orders" ["archive", "code"] := by decide
  exact absurd (h.mp hkey).1 (by decide)

end Indexes

end MigrationAudit
