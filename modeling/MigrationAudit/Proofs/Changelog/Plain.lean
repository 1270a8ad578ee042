import MigrationAudit.Changelog.Place
import MigrationAudit.Session.Policy

/-!
# Plain changes

Changes, nested columns, places and changelogs that have what they are given and nothing else, and a
policy that leaves out no check and changes no limit.
-/

namespace MigrationAudit

/-- A column of which only the name is given. -/
def NestedColumn.ofName (name : String) : NestedColumn := ⟨[(.name, .text name)], none⟩

/-- A column that is a primary key of the given name. -/
def NestedColumn.ofKey (name key : String) : NestedColumn :=
  ⟨[(.name, .text name)], some ⟨[(.primaryKey, .flag true), (.primaryKeyName, .text key)]⟩⟩

/-- A column of which the name and the type are given. -/
def NestedColumn.ofType (name type : String) : NestedColumn :=
  ⟨[(.name, .text name), (.type, .text type)], none⟩

/-- A column that is declared not null. -/
def NestedColumn.ofNotNull (name : String) : NestedColumn :=
  ⟨[(.name, .text name)], some ⟨[(.nullable, .flag false)]⟩⟩

/-- A change whose attributes are texts. -/
def Change.ofTexts (e : Element) (texts : List (Attribute × String))
    (nested : List NestedColumn) : Change :=
  ⟨e, texts.map fun p => (p.1, .text p.2), nested⟩

/-- A change that creates an index on columns of a table. -/
def Change.ofIndex (name table : String) (columns : List String) : Change :=
  .ofTexts .createIndex [(.tableName, table), (.indexName, name)] (columns.map NestedColumn.ofName)

/-- A change alone in its set, and the set alone in its log. -/
def ChangePlace.alone (c : Change) : ChangePlace :=
  { log := ⟨none, "", []⟩, changeSet := ⟨"", none, [], none, [], [c]⟩, earlier := [], change := c,
    later := [] }

def ChangeSet.ofChanges (changes : List Change) : ChangeSet := ⟨"", none, [], none, [], changes⟩

/-- The changes in a set, and the set alone in its log. -/
def SetPlace.ofChanges (changes : List Change) : SetPlace := ⟨⟨none, "", []⟩, .ofChanges changes⟩

/-- A changelog of one set with the changes. -/
def Changelog.ofChanges (changes : List Change) : Changelog := ⟨none, "", [.ofChanges changes]⟩

def Policy.plain : Policy := ⟨⟨[], []⟩, .default, none, none, false, [], []⟩

end MigrationAudit
