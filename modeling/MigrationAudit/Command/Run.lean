import MigrationAudit.Command.Arguments
import MigrationAudit.Report
import MigrationAudit.Session.Basic

/-!
# Runs of the command

A run reads the settings, finds and reads the changelogs, audits them and reports.  Its exit code is
zero exactly when it gives information, or a report without issues or where issues are tolerated
(`exitCode_eq_zero_iff`).
-/

namespace MigrationAudit

/-- Settings for changelogs from some sources, whose directory is where logical paths start if no
other one is set. -/
def Settings.forSources (s : Settings) (sources : Sources) : Settings :=
  { s with sourceDir := s.sourceDir.or sources.directory }

/-- Why a run does not come to a report. -/
inductive Complaint where
  | unreadableSettings (path : String)
  | malformedSettings (path : String)
  | noChangelogs (failure : Failure)
  | noAudit (failure : Failure)
  deriving DecidableEq, Repr

def Complaint.message : Complaint → String
  | unreadableSettings path => s!"failed to read config {path}"
  | malformedSettings path => s!"failed to parse config {path}"
  | noChangelogs failure => failure.message
  | noAudit _ => "failed to validate changelogs"

/-- Issues from a file system: those of the changelogs that its sources hold. -/
def Sources.audit (sources : Sources) (naming : Naming) (settings : Settings) (fs : FileSystem) :
    Except Complaint (List Issue) :=
  match sources.changelogs fs with
  | .error failure => .error (.noChangelogs failure)
  | .ok logs =>
    match auditChangelogs naming (settings.forSources sources) logs with
    | .error failure => .error (.noAudit failure)
    | .ok issues => .ok issues

namespace Request

def settings (r : Request) (fs : FileSystem) : Except Complaint Settings :=
  match r.config with
  | none => .ok (r.adjust .default)
  | some path =>
    match fs.text? path with
    | none => .error (.unreadableSettings path)
    | some text =>
      match Settings.ofText text with
      | .error _ => .error (.malformedSettings path)
      | .ok settings => .ok (r.adjust settings)

def audit (r : Request) (naming : Naming) (fs : FileSystem) : Except Complaint (List Issue) := do
  r.sources.audit naming (← r.settings fs) fs

end Request

/-- How a run ends. -/
inductive Outcome where
  | reported (request : Request) (issues : List Issue)
  | failed (complaint : Complaint)
  | refused (refusal : Refusal)
  | informed (text : String)
  deriving DecidableEq, Repr

namespace Outcome

def exitCode : Outcome → Nat
  | reported request issues => if issues.isEmpty || request.tolerant then 0 else 1
  | failed _ => 1
  | refused _ => 2
  | informed _ => 0

def output : Outcome → String
  | reported request issues =>
    if request.asJson then Report.json issues ++ "\n" else Report.text issues
  | informed text => text
  | failed _ => ""
  | refused _ => ""

/-- What is wrong, where there is no report. -/
def complaint? : Outcome → Option String
  | failed complaint => some complaint.message
  | refused refusal => some refusal.message
  | reported _ _ => none
  | informed _ => none

end Outcome

/-- The options, one on each line. -/
def usage : String :=
  "Usage: validate [OPTIONS]\n\nOptions:\n" ++
    String.join (ValueOption.all.map fun option => s!"  --{option.name} <VALUE>\n") ++
    String.join (FlagOption.all.map fun option => s!"  --{option.name}\n")

/-- A run with some arguments; the version is the text that identifies the program. -/
def runCommand (version : String) (naming : Naming) (fs : FileSystem) (arguments : List String) :
    Outcome :=
  match Invocation.ofArguments arguments with
  | .error refusal => .refused refusal
  | .ok .help => .informed usage
  | .ok .version => .informed (version ++ "\n")
  | .ok (.validate request) =>
    match request.audit naming fs with
    | .error complaint => .failed complaint
    | .ok issues => .reported request issues

theorem exitCode_eq_zero_iff (outcome : Outcome) :
    outcome.exitCode = 0 ↔
      (∃ text, outcome = .informed text) ∨
        ∃ request issues, outcome = .reported request issues ∧
          (issues = [] ∨ request.tolerant = true) := by
  cases outcome with
  | reported request issues =>
    simp only [Outcome.exitCode, ite_eq_left_iff, Bool.or_eq_true, List.isEmpty_iff, reduceCtorEq,
      exists_const, false_or, Outcome.reported.injEq]
    constructor
    · exact fun h => ⟨request, issues, ⟨rfl, rfl⟩, Classical.not_not.mp fun hn =>
        absurd (h hn) (by decide)⟩
    · rintro ⟨_, _, ⟨rfl, rfl⟩, h⟩ hn
      exact absurd h hn
  | failed complaint => simp [Outcome.exitCode]
  | refused refusal => simp [Outcome.exitCode]
  | informed text => simp [Outcome.exitCode]

end MigrationAudit
