import MigrationAudit.Files.Sources
import MigrationAudit.Settings.Reading

/-!
# Requests

A request says what to audit, under which settings, and how to report.  It is built up by options,
one value at a time; an option that is no list is given once.
-/

namespace MigrationAudit

/-- Why arguments are not understood. -/
inductive Refusal where
  | noCommand
  | unknownArgument (text : String)
  | missingValue (text : String)
  | unexpectedValue (text : String)
  | repeatedOption (option : String)
  | emptyPath (option : String)
  | malformedParameter (text : String)
  deriving DecidableEq, Repr

def Refusal.message : Refusal → String
  | noCommand => "a command is missing"
  | unknownArgument text => s!"the argument '{text}' is unknown"
  | missingValue text => s!"the argument '{text}' is without its value"
  | unexpectedValue text => s!"the argument '{text}' has a value that it does not take"
  | repeatedOption option => s!"the option '{option}' is given more than once"
  | emptyPath option => s!"the path for the option '{option}' is empty"
  | malformedParameter text =>
    s!"'{text}' is not the name of a check, a point, a setting, an equals sign and a value"

/-- The options that take a value. -/
inductive ValueOption where
  | source
  | changelog
  | extension
  | config
  | ignoreRule
  | includeChange
  | excludeChange
  | skipChangeSet
  | issuePattern
  | artifactId
  | parameter
  deriving DecidableEq, Repr

namespace ValueOption

def all : List ValueOption :=
  [source, changelog, extension, config, ignoreRule, includeChange, excludeChange, skipChangeSet,
    issuePattern, artifactId, parameter]

def name : ValueOption → String
  | source => "source"
  | changelog => "changelog"
  | extension => "extension"
  | config => "config"
  | ignoreRule => "ignore-rule"
  | includeChange => "include-change"
  | excludeChange => "exclude-change"
  | skipChangeSet => "skip-change-set"
  | issuePattern => "issue-pattern"
  | artifactId => "artifact-id"
  | parameter => "param"

/-- The letter that stands for an option. -/
def letter? : ValueOption → Option Char
  | source => some 's'
  | changelog => some 'f'
  | extension => some 'e'
  | config => some 'c'
  | parameter => some 'D'
  | _ => none

end ValueOption

structure Request where
  source : Option String
  changelogs : List String
  extension : Option String
  /-- Where the settings are. -/
  config : Option String
  ignoreRules : List String
  includeChanges : List String
  excludeChanges : List String
  skipChangeSets : List String
  issuePattern : Option String
  artifactId : Option String
  parameters : Parameters
  /-- Whether the report is JSON. -/
  asJson : Bool
  /-- Whether an audit with issues is no failure. -/
  tolerant : Bool
  deriving DecidableEq, Repr

namespace Request

def empty : Request :=
  { source := none
    changelogs := []
    extension := none
    config := none
    ignoreRules := []
    includeChanges := []
    excludeChanges := []
    skipChangeSets := []
    issuePattern := none
    artifactId := none
    parameters := []
    asJson := false
    tolerant := false }

/-- A value for an option that is given once. -/
def once (option : ValueOption) (given : Option String) (value : String) :
    Except Refusal (Option String) :=
  if given.isSome then .error (.repeatedOption option.name) else .ok (some value)

/-- A path for an option that is given once. -/
def onePath (option : ValueOption) (given : Option String) (value : String) :
    Except Refusal (Option String) := do
  let path ← once option given value
  if value = "" then .error (.emptyPath option.name) else .ok path

/-- An address and its value, from the sides of the first equals sign. -/
def readParameter (text : String) : Except Refusal (String × String) :=
  match Text.splitAtFirst? '=' text.toList with
  | none => .error (.malformedParameter text)
  | some (address, value) =>
    .ok (String.ofList (Text.trimChars address), String.ofList (Text.trimChars value))

/-- The request with a value for an option. -/
def take (r : Request) (option : ValueOption) (value : String) : Except Refusal Request :=
  match option with
  | .source => do return { r with source := ← onePath option r.source value }
  | .changelog => .ok { r with changelogs := r.changelogs ++ [value] }
  | .extension => do return { r with extension := ← once option r.extension value }
  | .config => do return { r with config := ← onePath option r.config value }
  | .ignoreRule => .ok { r with ignoreRules := r.ignoreRules ++ [value] }
  | .includeChange => .ok { r with includeChanges := r.includeChanges ++ [value] }
  | .excludeChange => .ok { r with excludeChanges := r.excludeChanges ++ [value] }
  | .skipChangeSet => .ok { r with skipChangeSets := r.skipChangeSets ++ [value] }
  | .issuePattern => do return { r with issuePattern := ← once option r.issuePattern value }
  | .artifactId => do return { r with artifactId := ← once option r.artifactId value }
  | .parameter => do return { r with parameters := r.parameters ++ [← readParameter value] }

def sources (r : Request) : Sources :=
  ⟨r.source, r.changelogs, r.extension.getD Sources.defaultExtension⟩

/-- Settings with what the request adds to them and puts in their place. -/
def adjust (r : Request) (s : Settings) : Settings :=
  { s with
    ignoreRules := s.ignoreRules ++ r.ignoreRules
    includeChanges := s.includeChanges ++ r.includeChanges
    excludeChanges := s.excludeChanges ++ r.excludeChanges
    skipChangeSets := s.skipChangeSets ++ r.skipChangeSets
    parameters := s.parameters ++ r.parameters
    issuePattern := r.issuePattern.or s.issuePattern
    artifactId := r.artifactId.or s.artifactId }

end Request

end MigrationAudit
