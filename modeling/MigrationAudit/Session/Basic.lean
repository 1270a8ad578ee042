import MigrationAudit.Schema.Replay
import MigrationAudit.Session.Catalogue

/-!
# Sessions

A session goes through changelogs in order.  Every change set is judged as a whole and then change
by change; a change is first replayed on the schema and then goes through the checks.  What is found
carries the name of the check that found it.  A failure ends the session where it stands: what was
replayed and remembered stays (`Step.andThen_of_error`), what was found is lost.
-/

namespace MigrationAudit

/-- An issue and the name of the check that found it. -/
structure Finding where
  check : String
  issue : Issue
  deriving DecidableEq, Repr

structure Session where
  schema : Schema
  memory : Memory
  deriving DecidableEq, Repr

def Session.empty : Session := ⟨.empty, .empty⟩

/-- A part of a session: the session after it, and what it found or why it failed. -/
abbrev Step := Session → Session × Except Failure (List Finding)

namespace Step

def nothing : Step := fun s => (s, .ok [])

/-- The second step follows unless the first one fails. -/
def andThen (first second : Step) : Step := fun s =>
  match first s with
  | (t, .error failure) => (t, .error failure)
  | (t, .ok found) =>
    match second t with
    | (u, .error failure) => (u, .error failure)
    | (u, .ok more) => (u, .ok (found ++ more))

def all (steps : List Step) : Step := steps.foldr andThen nothing

@[simp]
theorem all_nil : all [] = nothing := rfl

@[simp]
theorem all_cons (step : Step) (steps : List Step) :
    all (step :: steps) = step.andThen (all steps) := rfl

theorem andThen_of_error {first : Step} {s t : Session} {failure : Failure}
    (h : first s = (t, .error failure)) (second : Step) :
    first.andThen second s = (t, .error failure) := by
  simp [andThen, h]

theorem andThen_of_ok {first second : Step} {s t u : Session} {found more : List Finding}
    (h : first s = (t, .ok found)) (h' : second t = (u, .ok more)) :
    first.andThen second s = (u, .ok (found ++ more)) := by
  simp [andThen, h, h']

@[simp]
theorem nothing_andThen (step : Step) : nothing.andThen step = step := by
  funext s
  unfold andThen nothing
  rcases h : step s with ⟨t, _ | _⟩ <;> simp [h]

@[simp]
theorem andThen_nothing (step : Step) : step.andThen nothing = step := by
  funext s
  unfold andThen nothing
  rcases h : step s with ⟨t, _ | _⟩ <;> simp

theorem andThen_assoc (a b c : Step) : (a.andThen b).andThen c = a.andThen (b.andThen c) := by
  funext s
  unfold andThen
  rcases a s with ⟨t, _ | found⟩
  · rfl
  · rcases hb : b t with ⟨u, _ | more⟩
    · simp [hb]
    · rcases hc : c u with ⟨v, _ | most⟩ <;> simp [hb, hc]

theorem all_append (steps more : List Step) :
    all (steps ++ more) = (all steps).andThen (all more) := by
  induction steps with
  | nil => simp
  | cons step steps ih => simp [ih, andThen_assoc]

end Step

/-- A check of changes beside those of the catalogue. -/
structure ExtraChangeCheck where
  name : String
  run : Store → ChangePlace → Findings

/-- A check of change sets beside those of the catalogue. -/
structure ExtraSetCheck where
  name : String
  run : SetPlace → List Issue

/-- What does not change during a session. -/
structure Audit where
  policy : Policy
  extraSetChecks : List ExtraSetCheck
  extraChangeChecks : List ExtraChangeCheck
  /-- The names that constraints without one are given. -/
  naming : Naming

namespace Audit

def ofPolicy (policy : Policy) (naming : Naming) : Audit := ⟨policy, [], [], naming⟩

def tagged (check : String) (issues : List Issue) : List Finding := issues.map (Finding.mk check)

/-- A check is left out if its name is ignored. -/
def unlessIgnored (a : Audit) (check : String) (step : Step) : Step :=
  if a.policy.ignores check then .nothing else step

/-- What a check of change sets finds, without memory. -/
def setIssues (check : String) (issues : List Issue) : Step := fun s =>
  (s, .ok (tagged check issues))

def issueIdCheck : String := "issueId"

/-- Identifiers are judged first, and only if there is a pattern for them. -/
def issueIdStep (a : Audit) (place : SetPlace) : Step :=
  match a.policy.issuePattern with
  | none => .nothing
  | some pattern =>
    a.unlessIgnored issueIdCheck (setIssues issueIdCheck (Check.issueId pattern place))

def extraSetStep (a : Audit) (place : SetPlace) (check : ExtraSetCheck) : Step :=
  a.unlessIgnored check.name (setIssues check.name (check.run place))

def setCheckStep (a : Audit) (place : SetPlace) (check : SetCheck) : Step :=
  a.unlessIgnored check.name fun s =>
    let (issues, memory) := check.run a.policy place s.memory
    ({ s with memory }, .ok (tagged check.name issues))

/-- A change set as a whole. -/
def judgeSet (a : Audit) (place : SetPlace) : Step :=
  .all (a.issueIdStep place :: a.extraSetChecks.map (a.extraSetStep place) ++
    SetCheck.all.map (a.setCheckStep place))

def replayStep (a : Audit) (place : ChangePlace) : Step := fun s =>
  match s.schema.replay a.naming place.change with
  | (schema, none) => ({ s with schema }, .ok [])
  | (schema, some failure) => ({ s with schema }, .error failure)

def extraChangeStep (a : Audit) (place : ChangePlace) (check : ExtraChangeCheck) : Step :=
  a.unlessIgnored check.name fun s =>
    (s, (check.run s.schema.store place).map (tagged check.name))

def changeCheckStep (a : Audit) (place : ChangePlace) (check : ChangeCheck) : Step :=
  if check.appliesTo place.change.element then
    a.unlessIgnored check.name fun s =>
      let (found, memory) := check.run a.policy s.schema.store place s.memory
      ({ s with memory }, found.map (tagged check.name))
  else .nothing

/-- A change, replayed and then judged. -/
def judgeChange (a : Audit) (place : ChangePlace) : Step :=
  .all (a.replayStep place :: a.extraChangeChecks.map (a.extraChangeStep place) ++
    ChangeCheck.all.map (a.changeCheckStep place))

/-- A change set as a whole and then its changes. -/
def judgePlace (a : Audit) (place : SetPlace) : Step :=
  (a.judgeSet place).andThen (.all (place.places.map a.judgeChange))

/-- The change sets of a changelog that are not left out. -/
def judgeLog (a : Audit) (log : Changelog) : Step :=
  .all ((log.places.filter fun place => !a.policy.skips place.changeSet).map a.judgePlace)

def judgeLogs (a : Audit) (logs : List Changelog) : Step := .all (logs.map a.judgeLog)

end Audit

/-- The issues of an audit of changelogs under settings. -/
def auditChangelogs (naming : Naming) (settings : Settings) (logs : List Changelog) :
    Except Failure (List Issue) := do
  let policy ← Policy.ofSettings settings
  let found ← ((Audit.ofPolicy policy naming).judgeLogs logs .empty).2
  return found.map Finding.issue

end MigrationAudit
