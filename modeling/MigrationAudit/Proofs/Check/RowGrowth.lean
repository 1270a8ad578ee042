import Mathlib.Data.List.Forall2
import MigrationAudit.Proofs.Check.Blame
import MigrationAudit.Proofs.Check.RowOverflow
import MigrationAudit.Proofs.Storage.Growth

/-!
# Growing columns

A column that grows brings the sum of the sizes beyond the limit no later than before.  So the check
of a row that blamed a column blames the same one or an earlier one when the declared length of any
column grows, whatever the table and the limit (`rowBudget_of_longer_length`).
-/

namespace MigrationAudit.Check

open Storage

/-- The other column has the same name and, where the size of the one can be told, is no smaller. -/
structure Outgrows (c c' : Column) : Prop where
  name : c'.name = c.name
  size : ∀ a, rowSize c = .ok a → ∃ b, rowSize c' = .ok b ∧ a ≤ b

theorem Outgrows.refl (c : Column) : Outgrows c c := ⟨rfl, fun a h => ⟨a, h, le_rfl⟩⟩

variable {limit i : Nat} {d : Column}

/-- Among columns that have grown the sum exceeds the limit at the same position or before. -/
theorem Blames.of_outgrows {cs cs' : List Column} (h : List.Forall₂ Outgrows cs cs') :
    ∀ {i total total' : Nat}, total ≤ total' → Blames limit total cs i d →
      ∃ j d', j ≤ i ∧ Blames limit total' cs' j d' ∧ (cs[j]?).map Column.name = some d'.name := by
  -- behind a column that has grown the sums differ, so the induction is for any two of them
  induction h with
  | nil =>
    intro i total total' _ hb
    simp [Blames] at hb
  | @cons c c' cs cs' hc _ ih =>
    intro i total total' ht hb
    cases i with
    | zero =>
      obtain ⟨-, a, ha, hlt⟩ := blames_zero_iff.mp hb
      obtain ⟨b, hb, hle⟩ := hc.size a ha
      have hlt' := hlt.trans_le (saturatingAdd_mono ht hle)
      exact ⟨0, c', le_rfl, blames_zero_iff.mpr ⟨rfl, b, hb, hlt'⟩, by simp [hc.name]⟩
    | succ i =>
      obtain ⟨a, ha, -, hrest⟩ := blames_succ_iff.mp hb
      obtain ⟨b, hb, hle⟩ := hc.size a ha
      by_cases hlt : limit < saturatingAdd total' b
      · exact ⟨0, c', Nat.zero_le _, blames_zero_iff.mpr ⟨rfl, b, hb, hlt⟩, by simp [hc.name]⟩
      · obtain ⟨j, d', hj, hblames, hname⟩ := ih (saturatingAdd_mono ht hle) hrest
        exact ⟨j + 1, d', Nat.succ_le_succ hj, blames_succ_iff.mpr ⟨b, hb, hlt, hblames⟩,
          by simpa using hname⟩

theorem columns_append (earlier later : List (Identity × Entity)) (q : Query) :
    Store.columns ⟨earlier ++ later⟩ q = Store.columns ⟨earlier⟩ q ++ Store.columns ⟨later⟩ q := by
  simp [Store.columns, Store.matching]

theorem columns_cons (id : Identity) (c : Column) (entries : List (Identity × Entity)) (q : Query) :
    Store.columns ⟨(id, .column c) :: entries⟩ q =
      (if id.matches q then [c] else []) ++ Store.columns ⟨entries⟩ q := by
  by_cases h : id.matches q = true <;> simp [Store.columns, Store.matching, h, Entity.column?]

/-- A column that grows in its entry does so among the columns of its table. -/
theorem forall₂_outgrows_columns {c c' : Column} (h : Outgrows c c')
    (earlier later : List (Identity × Entity)) (id : Identity) (q : Query) :
    List.Forall₂ Outgrows (Store.columns ⟨earlier ++ (id, .column c) :: later⟩ q)
      (Store.columns ⟨earlier ++ (id, .column c') :: later⟩ q) := by
  have hrefl : ∀ cs, List.Forall₂ Outgrows cs cs := fun cs =>
    List.forall₂_same.mpr fun d _ => Outgrows.refl d
  rw [columns_append, columns_append, columns_cons, columns_cons]
  refine List.rel_append (hrefl _) (List.rel_append ?_ (hrefl _))
  split
  · exact .cons h .nil
  · exact .nil

/-- The size of a column in its row and in a key is monotone in its declared length.  If the check
of a row blames a column, then with a longer length of some column it blames the column at the same
position or at an earlier one. -/
theorem rowBudget_of_longer_length {c : Column} {s s' : String} {m n : Nat}
    (hm : Declares (storedType? c) s m) (hn : Declares (storedType? c) s' n) (hmn : m ≤ n)
    (hlob : storedType? c = some .lob → n ≤ greatestLobLength) :
    let shorter : Column := { c with length := some s }
    let longer : Column := { c with length := some s' }
    (∃ a b, rowSize shorter = .ok a ∧ rowSize longer = .ok b ∧ a ≤ b) ∧
    (∃ a b, keySize shorter = .ok a ∧ keySize longer = .ok b ∧ a ≤ b) ∧
    ∀ earlier later id limit place issue,
      let store : Store := ⟨earlier ++ (id, .column shorter) :: later⟩
      let store' : Store := ⟨earlier ++ (id, .column longer) :: later⟩
      rowBudget limit store place = .ok [issue] → ∃ table i d j d',
        place.change.table? = some table ∧
        Blames limit 0 (store.columns (.table table)) i d ∧
        issue = rowIssue place table limit d ∧
        j ≤ i ∧ ((store.columns (.table table))[j]?).map Column.name = some d'.name ∧
        Blames limit 0 (store'.columns (.table table)) j d' ∧
        rowBudget limit store' place = .ok [rowIssue place table limit d'] := by
  intro shorter longer
  have hrow : ∃ a b, rowSize shorter = .ok a ∧ rowSize longer = .ok b ∧ a ≤ b :=
    SizedBy.le_of_declares (exists_sizedBy_rowSize _) hm hn hmn hlob
  refine ⟨hrow, SizedBy.le_of_declares (exists_sizedBy_keySize _) hm hn hmn hlob, ?_⟩
  intro earlier later id limit place issue store store' hissue
  have hgrown : Outgrows shorter longer := by
    obtain ⟨a, b, ha, hb, hle⟩ := hrow
    refine ⟨rfl, fun a' ha' => ⟨b, hb, ?_⟩⟩
    rwa [← Except.ok.inj (ha.symm.trans ha')]
  cases ht : place.change.table? with
  | none =>
    rw [rowBudget, ht] at hissue
    cases hissue
  | some table =>
    obtain ⟨d, hd, rfl⟩ := (rowBudget_eq_issue_iff ht).mp hissue
    obtain ⟨i, hi⟩ := overflow?_eq_some_iff_blames.mp hd
    obtain ⟨j, d', hj, hblames, hname⟩ :=
      hi.of_outgrows (forall₂_outgrows_columns hgrown earlier later id (.table table)) le_rfl
    exact ⟨table, i, d, j, d', rfl, hi, rfl, hj, hname, hblames,
      (rowBudget_eq_issue_iff ht).mpr ⟨d', overflow?_eq_some_iff_blames.mpr ⟨j, hblames⟩, rfl⟩⟩

/-- Of two texts the second is blamed, until the first alone exceeds the limit. -/
theorem rowBudget_of_longer_length_pair :
    let place := ChangePlace.alone (.ofTexts .dropTable [(.tableName, "t")] [])
    let b := declaredColumn "b" "char" "100"
    let store (length : String) : Store :=
      ⟨[(.column "t" "a", .column (declaredColumn "a" "char" length)),
        (.column "t" "b", .column b)]⟩
    Declares (some .character) "10" 10 ∧ Declares (some .character) "200" 200 ∧
      rowBudget 110 (store "10") place = .ok [rowIssue place "t" 110 b] ∧
      ∃ i j d d', Blames 110 0 ((store "10").columns (.table "t")) i d ∧ j ≤ i ∧
        Blames 110 0 ((store "200").columns (.table "t")) j d' ∧
        rowBudget 110 (store "200") place = .ok [rowIssue place "t" 110 d'] := by
  intro place b store
  have hm : Declares (some .character) "10" 10 := by decide
  have hn : Declares (some .character) "200" 200 := by decide
  have hissue : rowBudget 110 (store "10") place = .ok [rowIssue place "t" 110 b] := by decide
  obtain ⟨table, i, d, j, d', ht, hi, -, hj, -, hd', hissue'⟩ :=
    (rowBudget_of_longer_length (c := declaredColumn "a" "char" "") hm hn (by decide)
      (by decide)).2.2 [] [(.column "t" "b", .column b)] (.column "t" "a") 110 place _ hissue
  obtain rfl : "t" = table := Option.some.inj ht
  exact ⟨hm, hn, hissue, i, j, d, d', hi, hj, hd', hissue'⟩

end MigrationAudit.Check
