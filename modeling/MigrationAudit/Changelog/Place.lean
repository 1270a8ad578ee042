import MigrationAudit.Changelog.Change

/-!
# Changelogs and the places in them

A changelog is an ordered list of change sets, a change set an ordered list of changes.  Whoever
judges a change may look at its surroundings: a place is a change together with the changes before
and after it in its set, and with the set and the changelog around them.  The places of a set, in
order, hold its changes in order (`SetPlace.places_map_change`).
-/

namespace MigrationAudit

/-- What a change set demands of the database; only that it demands something matters here. -/
structure Preconditions where
  onFail : Option String
  onError : Option String
  conditionCount : Nat
  deriving DecidableEq, Repr

structure ChangeSet where
  id : String
  author : Option String
  validCheckSums : List String
  preconditions : Option Preconditions
  dbms : List String
  changes : List Change
  deriving DecidableEq, Repr

/-- A change set is specific to some databases when it has preconditions or lists databases. -/
def ChangeSet.isDatabaseSpecific (s : ChangeSet) : Bool :=
  s.preconditions.isSome || !s.dbms.isEmpty

structure Changelog where
  logicalFilePath : Option String
  physicalFilePath : String
  changeSets : List ChangeSet
  deriving DecidableEq, Repr

/-- The logical path where one is written, else the physical path. -/
def Changelog.filePath (log : Changelog) : String :=
  (log.logicalFilePath.filter (· ≠ "")).getD log.physicalFilePath

/-- A change set in its changelog. -/
structure SetPlace where
  log : Changelog
  changeSet : ChangeSet

/-- A change in its change set. -/
structure ChangePlace extends SetPlace where
  /-- The changes of the set before this one. -/
  earlier : List Change
  change : Change
  /-- The changes of the set after this one. -/
  later : List Change

namespace SetPlace

def placesAfter (place : SetPlace) (earlier : List Change) : List Change → List ChangePlace
  | [] => []
  | c :: later => ⟨place, earlier, c, later⟩ :: place.placesAfter (earlier ++ [c]) later

/-- The changes of the set, each in its place. -/
def places (place : SetPlace) : List ChangePlace := place.placesAfter [] place.changeSet.changes

theorem placesAfter_map_change (place : SetPlace) (earlier changes : List Change) :
    (place.placesAfter earlier changes).map (·.change) = changes := by
  induction changes generalizing earlier with
  | nil => rfl
  | cons c later ih => simp [placesAfter, ih]

theorem places_map_change (place : SetPlace) :
    place.places.map (·.change) = place.changeSet.changes :=
  placesAfter_map_change place [] _

end SetPlace

def Changelog.places (log : Changelog) : List SetPlace := log.changeSets.map fun s => ⟨log, s⟩

end MigrationAudit
