import MigrationAudit.Changelog.Reading
import MigrationAudit.Settings.Basic

/-!
# Reading settings

Settings are a record, and limits are a record in it; what is not written keeps its default.
-/

namespace MigrationAudit

namespace Limits

/-- A field that holds a whole number. -/
def wordField (label : String) (put : Nat → Limits → Limits) : RecordField Limits :=
  ⟨label, fun _ j => do let n ← j.readWord; return put n⟩

def fields : List (RecordField Limits) :=
  [wordField "minNameLength" fun n l => { l with minNameLength := n },
   wordField "maxNameLength" fun n l => { l with maxNameLength := n },
   wordField "columnMaxPrecision" fun n l => { l with columnMaxPrecision := n },
   wordField "sequenceNameMaxLength" fun n l => { l with sequenceNameMaxLength := n },
   wordField "numericMaxPrecision" fun n l => { l with numericMaxPrecision := n },
   wordField "rowSizeLimit" fun n l => { l with rowSizeLimit := n },
   wordField "indexKeyLimit" fun n l => { l with indexKeyLimit := n },
   wordField "oracleIdentifierLength" fun n l => { l with oracleIdentifierLength := n },
   wordField "oracleVarcharLength" fun n l => { l with oracleVarcharLength := n },
   ⟨"sequenceStep", fun _ j => do
      let s ← j.readText
      return fun l => { l with sequenceStep := s }⟩,
   ⟨"filePathSuffix", fun _ j => do
      let s ← j.readOptional Json.readText
      return fun l => { l with filePathSuffix := s }⟩]

def read : JsonReader Limits := Json.readRecord fields .default

end Limits

namespace Settings

/-- A field that holds a list of texts. -/
def textsField (label : String) (put : List String → Settings → Settings) :
    RecordField Settings :=
  ⟨label, fun depth j => do let texts ← j.readTextList depth; return put texts⟩

/-- A field that holds a text or nothing. -/
def textField (label : String) (put : Option String → Settings → Settings) :
    RecordField Settings :=
  ⟨label, fun _ j => do let s ← j.readOptional Json.readText; return put s⟩

def fields : List (RecordField Settings) :=
  [textsField "includeChanges" fun names s => { s with includeChanges := names },
   textsField "excludeChanges" fun names s => { s with excludeChanges := names },
   textsField "ignoreRules" fun names s => { s with ignoreRules := names },
   textsField "skipChangeSets" fun ids s => { s with skipChangeSets := ids },
   textField "issuePattern" fun pattern s => { s with issuePattern := pattern },
   textField "artifactId" fun name s => { s with artifactId := name },
   textField "sourceDir" fun path s => { s with sourceDir := path },
   ⟨"typedValues", fun _ j => do
      let b ← j.readFlag
      return fun s => { s with typedValues := b }⟩,
   ⟨"limits", fun depth j => do
      let limits ← Limits.read depth j
      return fun s => { s with limits }⟩,
   ⟨"parameters", fun depth j => do
      let parameters ← j.readTexts depth
      return fun s => { s with parameters }⟩]

def read : JsonReader Settings := Json.readRecord fields .default

/-- The settings that a text holds. -/
def ofText (s : String) : Reading Settings := (JsonDocument.ofText s).read read

end Settings

end MigrationAudit
