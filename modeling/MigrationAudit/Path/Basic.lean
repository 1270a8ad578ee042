import MigrationAudit.Text.Pieces

/-!
# Paths

A path is a text; its parts are what stands between slashes.  Empty parts and dots do not count, but
for a dot at the very start, and a slash at the start is the root.  Two spellings with the same
parts are the same path, and paths are ordered part by part.
-/

namespace MigrationAudit.Path

open Text

inductive Part where
  | root
  | current
  | parent
  | name (s : String)
  deriving DecidableEq, Repr

namespace Part

def name? : Part → Option String
  | name s => some s
  | _ => none

/-- The root comes first, then a dot, two dots and names. -/
def rank : Part → Nat
  | root => 0
  | current => 1
  | parent => 2
  | name _ => 3

def before (p q : Part) : Bool :=
  match p, q with
  | name s, name t => s < t
  | p, q => p.rank < q.rank

end Part

/-- The part that a piece between slashes stands for, if it counts. -/
def part? (piece : List Char) : Option Part :=
  match piece with
  | [] => none
  | ['.'] => none
  | ['.', '.'] => some .parent
  | cs => some (.name (String.ofList cs))

/-- The parts of the pieces of a path, of which the first one may be the root or a dot. -/
def partsOfPieces : List (List Char) → List Part
  | [] => []
  | [[]] => []
  | [] :: rest => .root :: rest.filterMap part?
  | ['.'] :: rest => .current :: rest.filterMap part?
  | piece :: rest => (piece :: rest).filterMap part?

def parts (path : String) : List Part := partsOfPieces (pieces '/' path.toList)

/-- Parts are compared one after the other; a path comes before those that go on from it. -/
def partsBefore : List Part → List Part → Bool
  | [], [] => false
  | [], _ :: _ => true
  | _ :: _, [] => false
  | p :: ps, q :: qs => if p = q then partsBefore ps qs else p.before q

/-- The parts of the directory that holds a path; the root and the empty path are in none. -/
def parentParts (ps : List Part) : List Part := if ps = [.root] then [] else ps.dropLast

/-- The rest of the parts after those of a directory, if they start with them. -/
def partsBelow? : List Part → List Part → Option (List Part)
  | [], ps => some ps
  | _ :: _, [] => none
  | d :: ds, p :: ps => if d = p then partsBelow? ds ps else none

@[simp]
theorem partsBelow?_append (ds ps : List Part) : partsBelow? ds (ds ++ ps) = some ps := by
  induction ds with
  | nil => rfl
  | cons d ds ih => simp [partsBelow?, ih]

/-- What is below a directory is the rest of the parts, and nothing else is below it. -/
theorem partsBelow?_eq_some_iff {ds ps rest : List Part} :
    partsBelow? ds ps = some rest ↔ ps = ds ++ rest := by
  induction ds generalizing ps with
  | nil => simp [partsBelow?]
  | cons d ds ih =>
    cases ps with
    | nil => simp [partsBelow?]
    | cons p ps =>
      by_cases h : d = p
      · simp [partsBelow?, h, ih]
      · simp [partsBelow?, h, Ne.symm h]

end MigrationAudit.Path
