import MigrationAudit.Issue
import MigrationAudit.Rule.Basic

/-!
# Rules in context

A context is a field with its value and the change it belongs to.  The value is looked up in the
subject of the context or given with it.  A context for a nested column or its constraints is a
child of a context of the change, and the issues it gives rise to are issues of that change.
-/

namespace MigrationAudit

/-- Whatever carries attributes. -/
inductive Subject where
  | change (place : ChangePlace)
  | column (c : NestedColumn)
  | constraints (c : InlineConstraints)

def Subject.lookup : Subject → String → Except Failure (Option String)
  | .change place => place.change.lookup
  | .column c => c.lookup
  | .constraints c => c.lookup

inductive Context where
  /-- The value is the one that the subject has under the field. -/
  | ofSubject (subject : Subject) (field : String)
  | ofValue (subject : Subject) (field : String) (value : Option String)
  | child (parent : Context) (subject : Subject) (field : String) (value : Option String)

namespace Context

def subject : Context → Subject
  | ofSubject s _ => s
  | ofValue s _ _ => s
  | child _ s _ _ => s

def field : Context → String
  | ofSubject _ f => f
  | ofValue _ f _ => f
  | child _ _ f _ => f

def parent? : Context → Option Context
  | child p _ _ _ => some p
  | _ => none

def value : Context → Except Failure (Option String)
  | ofSubject s f => s.lookup f
  | ofValue _ _ v => .ok v
  | child _ _ _ v => .ok v

/-- The nearest change: the context's own or that of an ancestor. -/
def place? : Context → Option ChangePlace
  | ofSubject (.change place) _ => some place
  | ofValue (.change place) _ _ => some place
  | child _ (.change place) _ _ => some place
  | child p _ _ _ => p.place?
  | _ => none

/-- An issue of the nearest change. -/
def issue (c : Context) (cause : Cause) : Except Failure Issue :=
  match c.place? with
  | some place => .ok (Issue.ofChange place (some c.field) cause)
  | none => .error (.contextWithoutChange c.field)

end Context

/-- A rule to be tried in a context. -/
structure Binding where
  rule : Rule
  context : Context

namespace Binding

/-- The issue if the value of the context breaks the rule. -/
def run (b : Binding) : Except Failure (List Issue) := do
  let value ← b.context.value
  let valid ← (b.rule.holds value).mapError (Failure.atField b.context.field)
  if valid then return []
  else
    let issue ← b.context.issue (b.rule.cause b.context.field value)
    return [issue]

/-- The issues of bindings in their order. -/
def runAll : List Binding → Except Failure (List Issue)
  | [] => .ok []
  | b :: bs => do
    let issues ← b.run
    let rest ← runAll bs
    return issues ++ rest

/-- A rule in several contexts. -/
def each (rule : Rule) (contexts : List Context) : List Binding :=
  contexts.map fun context => ⟨rule, context⟩

end Binding

end MigrationAudit
