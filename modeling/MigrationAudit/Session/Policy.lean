import MigrationAudit.Check.Filter
import MigrationAudit.Path.Expected
import MigrationAudit.Rule.Basic
import MigrationAudit.Settings.Basic

/-!
# Policies

Settings are resolved to a policy before anything is judged, and every mistake in them comes to
light there.  So the step that a policy expects of sequences is never blank
(`ofSettings_sequenceStep`).
-/

namespace MigrationAudit

structure Policy where
  filter : Filter
  limits : Limits
  issuePattern : Option IssuePattern
  expectedPath : Option ExpectedPath
  typedValues : Bool
  ignored : List String
  skipped : List String

namespace Policy

/-- An artifact goes before a source directory. -/
def expectedPath? (s : Settings) (limits : Limits) : Option ExpectedPath :=
  match s.artifactId with
  | some name => some (.artifact name)
  | none => s.sourceDir.map fun directory => .below directory limits.filePathSuffix

/-- A pattern that is more than blanks. -/
def issuePattern? (s : Settings) : Except Failure (Option IssuePattern) :=
  match s.issuePattern with
  | none => .ok none
  | some text =>
    if Text.isBlankText text then .ok none else (IssuePattern.ofText text).map some

def ofSettings (s : Settings) : Except Failure Policy := do
  let filter ← Filter.ofNames s.includeChanges s.excludeChanges
  let limits ← s.limits.withParameters s.parameters
  let _ ← Rule.equals? limits.sequenceStep
  let issuePattern ← issuePattern? s
  return ⟨filter, limits, issuePattern, expectedPath? s limits, s.typedValues, s.ignoreRules,
    s.skipChangeSets⟩

/-- Whether a check is left out. -/
def ignores (p : Policy) (check : String) : Bool := check ∈ p.ignored

/-- Whether a change set is left out: only those specific to some databases can be. -/
def skips (p : Policy) (s : ChangeSet) : Bool := s.id ∈ p.skipped && s.isDatabaseSpecific

theorem ofSettings_sequenceStep {s : Settings} {p : Policy} (h : ofSettings s = .ok p) :
    Rule.equals? p.limits.sequenceStep = .ok (.equals p.limits.sequenceStep) := by
  unfold ofSettings at h
  cases hf : Filter.ofNames s.includeChanges s.excludeChanges with
  | error e => simp [hf, bind, Except.bind] at h
  | ok filter =>
    cases hl : s.limits.withParameters s.parameters with
    | error e => simp [hf, hl, bind, Except.bind] at h
    | ok limits =>
      cases hr : Rule.equals? limits.sequenceStep with
      | error e => simp [hf, hl, hr, bind, Except.bind] at h
      | ok rule =>
        cases hi : issuePattern? s with
        | error e => simp [hf, hl, hr, hi, bind, Except.bind] at h
        | ok issuePattern =>
          simp only [hf, hl, hr, hi, bind, Except.bind, pure, Except.pure, Except.ok.injEq] at h
          subst h
          unfold Rule.equals? at hr ⊢
          split at hr
          · cases hr
          · next hb => simp [hb]

end Policy

end MigrationAudit
