/-!
# File trees

A file tree is a file or a directory of named trees, so what stands in it is found by the names that
lead there.  Something put into a tree is found where it was put (`find?_put`).
-/

namespace MigrationAudit

inductive FileTree where
  /-- A file with its text, if its bytes are a text. -/
  | file (text? : Option String)
  | directory (entries : List (String × FileTree))

namespace FileTree

def empty : FileTree := directory []

/-- What a directory holds; a file holds nothing. -/
def entries : FileTree → List (String × FileTree)
  | file _ => []
  | directory es => es

def isDirectory : FileTree → Bool
  | file _ => false
  | directory _ => true

def find? (t : FileTree) : List String → Option FileTree
  | [] => some t
  | name :: names => (t.entries.lookup name).bind (·.find? names)

/-- Entries with one in the place of the entry of its name, or at the end. -/
def setEntry (name : String) (t : FileTree) :
    List (String × FileTree) → List (String × FileTree)
  | [] => [(name, t)]
  | e :: es => if name = e.1 then (name, t) :: es else e :: setEntry name t es

/-- The tree with another put into it, in directories that are made where they are missing. -/
def put (t new : FileTree) : List String → FileTree
  | [] => new
  | name :: names =>
    directory (setEntry name (((t.entries.lookup name).getD empty).put new names) t.entries)

/-- The tree with a directory at some names, which stays as it is if it is there. -/
def putDirectory (t : FileTree) (names : List String) : FileTree :=
  t.put (((t.find? names).filter isDirectory).getD empty) names

mutual

/-- Everything in a tree but itself, with the names that lead to it. -/
def contents : FileTree → List (List String × FileTree)
  | file _ => []
  | directory es => entryContents es

def entryContents : List (String × FileTree) → List (List String × FileTree)
  | [] => []
  | (name, t) :: es =>
    ([name], t) :: (contents t).map (fun e => (name :: e.1, e.2)) ++ entryContents es

end

theorem lookup_setEntry (name : String) (t : FileTree) (es : List (String × FileTree)) :
    (setEntry name t es).lookup name = some t := by
  induction es with
  | nil => simp [setEntry]
  | cons e es ih =>
    obtain ⟨other, u⟩ := e
    unfold setEntry
    split
    · simp
    · next h => simpa [List.lookup_cons, beq_eq_false_iff_ne.mpr h] using ih

theorem find?_put (t new : FileTree) (names : List String) :
    (t.put new names).find? names = some new := by
  induction names generalizing t with
  | nil => rfl
  | cons name names ih => simp [put, find?, entries, lookup_setEntry, ih]

end FileTree

end MigrationAudit
