import MigrationAudit.Schema.Identity

/-!
# The store

Entities in the order in which their identities were first put.  Putting under a stored identity
replaces the entity in its place (`keys_put_of_mem`), under any other it appends
(`keys_put_of_not_mem`); updating keeps every entry in its place and stores it under the identity
that its column has afterwards.
-/

namespace MigrationAudit

structure Store where
  entries : List (Identity × Entity)
  deriving DecidableEq, Repr

namespace Store

def empty : Store := ⟨[]⟩

def keys (s : Store) : List Identity := s.entries.map (·.1)

def size (s : Store) : Nat := s.entries.length

def isEmpty (s : Store) : Bool := s.entries.isEmpty

/-- The entity of the first entry under an identity. -/
def get? (s : Store) (id : Identity) : Option Entity :=
  (s.entries.find? (·.1 == id)).map (·.2)

/-- Entries with the first one under `id` replaced, or with a new one at the end. -/
def putEntry (id : Identity) (e : Entity) : List (Identity × Entity) → List (Identity × Entity)
  | [] => [(id, e)]
  | p :: ps => if p.1 = id then (id, e) :: ps else p :: putEntry id e ps

def put (s : Store) (id : Identity) (e : Entity) : Store := ⟨putEntry id e s.entries⟩

/-- Entries without the first one under `id`. -/
def removeEntry (id : Identity) : List (Identity × Entity) → List (Identity × Entity)
  | [] => []
  | p :: ps => if p.1 = id then ps else p :: removeEntry id ps

def remove (s : Store) (id : Identity) : Store := ⟨removeEntry id s.entries⟩

/-- The entries for which `p` does not hold. -/
def removeWhere (s : Store) (p : Identity → Entity → Bool) : Store :=
  ⟨s.entries.filter fun x => !p x.1 x.2⟩

def removeMatching (s : Store) (q : Query) : Store := s.removeWhere fun id _ => id.matches q

/-- The entities that a query finds, in order. -/
def matching (s : Store) (q : Query) : List Entity :=
  (s.entries.filter (·.1.matches q)).map (·.2)

def columns (s : Store) (q : Query) : List Column := (s.matching q).filterMap Entity.column?

def constraints (s : Store) (q : Query) : List Constraint :=
  (s.matching q).filterMap Entity.constraint?

def column? (s : Store) (table column : String) : Option Column :=
  (s.columns (.column table column)).head?

/-- An entry after an update of the columns that a query finds. -/
def updateEntry (q : Query) (f : Column → Column) (p : Identity × Entity) : Identity × Entity :=
  if p.1.matches q then
    match p.2 with
    | .column c => ((f c).identity, .column (f c))
    | .constraint _ => p
  else p

def update (s : Store) (q : Query) (f : Column → Column) : Store :=
  ⟨s.entries.map (updateEntry q f)⟩

/-- How many entries an update reaches. -/
def updateCount (s : Store) (q : Query) : Nat := (s.columns q).length

def containsKey (s : Store) (q : Query) : Bool := s.entries.any (·.1.matches q)

def containsEntity (s : Store) (e : Entity) : Bool := s.entries.any (·.2 == e)

def masked (s : Store) : Store :=
  ⟨s.entries.map fun p =>
    match p.2 with
    | .column c => (p.1, .column c.masked)
    | .constraint c => (p.1, .constraint c.masked)⟩

theorem keys_put_of_mem {s : Store} {id : Identity} (h : id ∈ s.keys) (e : Entity) :
    (s.put id e).keys = s.keys := by
  obtain ⟨entries⟩ := s
  simp only [put, keys] at h ⊢
  induction entries with
  | nil => simp at h
  | cons p ps ih =>
    unfold putEntry
    split
    · next hp => simp [hp]
    · next hp =>
      rcases List.mem_cons.mp h with h | h
      · exact absurd h.symm hp
      · simp [ih h]

theorem keys_put_of_not_mem {s : Store} {id : Identity} (h : id ∉ s.keys) (e : Entity) :
    (s.put id e).keys = s.keys ++ [id] := by
  obtain ⟨entries⟩ := s
  simp only [put, keys] at h ⊢
  induction entries with
  | nil => rfl
  | cons p ps ih =>
    simp only [List.map_cons, List.mem_cons, not_or] at h
    simp [putEntry, Ne.symm h.1, ih h.2]

end Store

end MigrationAudit
