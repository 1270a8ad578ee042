import MigrationAudit.Cause
import MigrationAudit.Changelog.Place

/-!
# Issues

An issue says what is wrong and where: in which file, at which element and attribute, in which
change set and by which author.  An issue of a changelog names no change set, an issue of a change
set no element.
-/

namespace MigrationAudit

structure Issue where
  file : String
  element : Option String
  field : Option String
  cause : Cause
  changeSetId : Option String
  changeSetAuthor : Option String
  deriving DecidableEq, Repr

namespace Issue

def message (i : Issue) : String := i.cause.message

def masked (i : Issue) : Issue := { i with cause := i.cause.masked }

def ofChangelog (log : Changelog) (field : Option String) (cause : Cause) : Issue :=
  ⟨log.physicalFilePath, none, field, cause, none, none⟩

def ofSet (place : SetPlace) (field : Option String) (cause : Cause) : Issue :=
  { ofChangelog place.log field cause with
    changeSetId := some place.changeSet.id, changeSetAuthor := place.changeSet.author }

/-- An issue of something named in a change set. -/
def ofSetElement (place : SetPlace) (element : String) (cause : Cause) : Issue :=
  { ofSet place none cause with element := some element }

/-- An issue of something named in a change. -/
def ofElement (place : ChangePlace) (element : String) (field : Option String) (cause : Cause) :
    Issue :=
  { ofSet place.toSetPlace field cause with element := some element }

def ofChange (place : ChangePlace) (field : Option String) (cause : Cause) : Issue :=
  ofElement place place.change.element.name field cause

/-- The issue on one line. -/
def render (i : Issue) : String :=
  i.file ++ " changeSet " ++ i.changeSetId.getD "-" ++ " (" ++ i.changeSetAuthor.getD "-" ++
    ") has a violation on " ++ (i.field.elim "" fun a => s!"attribute {a} of ") ++
    "element " ++ i.element.getD "changeSet" ++ ", " ++ i.message

end Issue

end MigrationAudit
