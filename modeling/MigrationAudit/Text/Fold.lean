import MigrationAudit.Text.Case

/-!
# Characters up to case

Two characters are variants of one another when the small forms of their capital forms are the same.
The dotted capital I and the dotless small one are variants of themselves only.
-/

namespace MigrationAudit.Text

/-- The other case of a character where that is one character, else the character. -/
def shift (runs : List CaseRun) (n : Nat) : Nat := (shifted? n runs).getD n

/-- The characters that keep to themselves. -/
def caseless : List Nat := [0x130, 0x131]

/-- What all variants of a character have in common. -/
def foldKey (n : Nat) : Nat :=
  if n ∈ caseless then n else shift lowerRuns (shift upperRuns n)

/-- The characters that runs move to a given one. -/
def shiftedTo (runs : List CaseRun) (n : Nat) : List Nat :=
  runs.filterMap fun r =>
    let m := ((n : Int) - r.shift).toNat
    if r.first ≤ m && m ≤ r.last && (m - r.first) % r.step == 0 then some m else none

/-- A character with its variants. -/
def variants (c : Char) : List Char :=
  let key := foldKey c.toNat
  let capitals := key :: shiftedTo lowerRuns key
  let candidates := capitals ++ capitals.flatMap (shiftedTo upperRuns)
  c :: (candidates.filter fun n => foldKey n == key).map Char.ofNat

end MigrationAudit.Text
