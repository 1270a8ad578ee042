/-!
# Texts in order

Texts are ordered by their characters' code points.  A list of texts is put in order by putting one
after the other in its place, and a text that occurs more than once stays in once; so the ordered
list has exactly the same texts (`mem_ordered_iff`).
-/

namespace MigrationAudit.Text

/-- A text put in its place among texts in order, unless it is there already. -/
def place (s : String) : List String → List String
  | [] => [s]
  | t :: ts => if s < t then s :: t :: ts else if s = t then t :: ts else t :: place s ts

/-- The texts in order, each once. -/
def ordered (texts : List String) : List String := texts.foldr place []

theorem mem_place_iff {s t : String} {ts : List String} : t ∈ place s ts ↔ t = s ∨ t ∈ ts := by
  induction ts with
  | nil => simp [place]
  | cons u us ih =>
    unfold place
    split
    · simp
    · split
      · next h => simp [h]
      · simp [ih, or_left_comm]

theorem mem_ordered_iff {t : String} {texts : List String} : t ∈ ordered texts ↔ t ∈ texts := by
  unfold ordered
  induction texts with
  | nil => simp
  | cons s ss ih => simp [mem_place_iff, ih]

end MigrationAudit.Text
