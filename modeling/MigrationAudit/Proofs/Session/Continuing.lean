import MigrationAudit.Proofs.Session.Duplicates
import MigrationAudit.Proofs.Session.Failures

/-!
# Sessions that go on

A failure loses what was found at the item it stops, but the session may go on with the next item
from where the failure left it (`Audit.sessionAfter`).  What a check reports in such a session is
what it reports at one item after the other (`Audit.reports_append`), and in a session that succeeds
it is what the session finds by the name of the check (`Audit.foundBy_judgeLogs`).
-/

namespace MigrationAudit

/-! ## Steps that leave a part of what is remembered -/

namespace Step

/-- Whether it succeeds or fails, the step leaves a part of what is remembered as it is. -/
def Leaves {α : Type} (part : Memory → α) (step : Step) : Prop :=
  ∀ s, part (step s).1.memory = part s.memory

variable {α : Type} {part : Memory → α}

theorem leaves_nothing : Leaves part nothing := fun _ => rfl

theorem Leaves.andThen {first second : Step} (h : first.Leaves part) (h' : second.Leaves part) :
    (first.andThen second).Leaves part := fun s => by
  have former := h s
  unfold Step.andThen
  rcases hfirst : first s with ⟨t, failure | found⟩ <;> rw [hfirst] at former
  · exact former
  · have latter := h' t
    rcases hsecond : second t with ⟨u, failure | more⟩ <;> rw [hsecond] at latter <;>
      simpa only [hsecond] using latter.trans former

end Step

namespace Audit

variable {a : Audit} {α : Type} {part : Memory → α}

theorem leaves_checked {check : String} {run : Session → Findings × Memory}
    (h : ∀ s, part (run s).2 = part s.memory) :
    (a.unlessIgnored check (checked check run)).Leaves part :=
  unlessIgnored_cases Step.leaves_nothing h

theorem leaves_replayStep (place : ChangePlace) : (a.replayStep place).Leaves part := fun s => by
  rw [replayStep_eq]

/-- A part that no check of change sets touches is as it was after a change set is judged. -/
theorem leaves_judgeSet {place : SetPlace}
    (h : ∀ (check : SetCheck) memory, part (check.run a.policy place memory).2 = part memory) :
    (a.judgeSet place).Leaves part := by
  refine judgeSet_induction Step.leaves_nothing Step.Leaves.andThen (fun pattern => ?_)
    (fun check _ => ?_) fun check => ?_
  · exact unlessIgnored_cases Step.leaves_nothing fun _ => rfl
  · exact unlessIgnored_cases Step.leaves_nothing fun _ => rfl
  · rw [setCheckStep_eq_checked]
    exact leaves_checked fun s => h check s.memory

/-- A part that no check of this change touches is as it was after the change is judged. -/
theorem leaves_judgeChange {place : ChangePlace}
    (h : ∀ (check : ChangeCheck) store memory,
      part (check.run a.policy store place memory).2 = part memory) :
    (a.judgeChange place).Leaves part := by
  refine judgeChange_induction Step.leaves_nothing Step.Leaves.andThen (leaves_replayStep place)
    (fun check _ => ?_) fun check => ?_
  · rw [extraChangeStep_eq_checked]
    exact leaves_checked fun _ => rfl
  · exact leaves_checked fun s => h check s.schema.store s.memory

/-! ## Items one after the other -/

/-- The session after items were judged, each from where the one before it left the session, be it
by a failure. -/
def sessionAfter (a : Audit) (items : List Item) : Session :=
  items.foldl (fun s item => (a.judge item s).1) .empty

theorem sessionAfter_append (items : List Item) (item : Item) :
    a.sessionAfter (items ++ [item]) = (a.judge item (a.sessionAfter items)).1 := by
  simp [sessionAfter]

/-- What the check of a name reports at an item; an item that fails reports nothing. -/
def reportedAt (a : Audit) (check : String) (item : Item) (s : Session) : List Issue :=
  match (a.judge item s).2 with
  | .ok found => foundBy check found
  | .error _ => []

def reportsFrom (a : Audit) (check : String) : Session → List Item → List Issue
  | _, [] => []
  | s, item :: items => a.reportedAt check item s ++ a.reportsFrom check (a.judge item s).1 items

/-- What the check of a name reports in a session that goes on whatever fails. -/
def reports (a : Audit) (check : String) (items : List Item) : List Issue :=
  a.reportsFrom check .empty items

variable {check : String}

theorem reportsFrom_append (item : Item) : ∀ (items : List Item) (s : Session),
    a.reportsFrom check s (items ++ [item]) = a.reportsFrom check s items ++
      a.reportedAt check item (items.foldl (fun s item => (a.judge item s).1) s)
  | [], s => by simp [reportsFrom]
  | first :: items, s => by
    rw [List.cons_append, reportsFrom, reportsFrom, reportsFrom_append item items,
      List.append_assoc]
    rfl

theorem reports_append (items : List Item) (item : Item) :
    a.reports check (items ++ [item]) =
      a.reports check items ++ a.reportedAt check item (a.sessionAfter items) :=
  reportsFrom_append item items .empty

theorem reportedAt_of_ok {item : Item} {s : Session} {found : List Finding}
    (h : (a.judge item s).2 = .ok found) : a.reportedAt check item s = foundBy check found := by
  unfold reportedAt
  rw [h]

/-- At an item that spares a check, nothing is reported by it. -/
theorem reportedAt_of_spares {item : Item} (h : Step.Spares part check (a.judge item))
    (s : Session) : a.reportedAt check item s = [] := by
  unfold reportedAt
  split
  · next found judged => exact (h s _ found (Step.eq_mk_of_snd judged)).2
  · rfl

theorem foundBy_all : ∀ {items : List Item} {s t : Session} {found : List Finding},
    Step.all (items.map a.judge) s = (t, .ok found) →
      foundBy check found = a.reportsFrom check s items
  | [], s, t, found, h => by
    obtain ⟨-, hfound⟩ := Prod.mk.inj h
    obtain rfl := Except.ok.inj hfound
    rfl
  | item :: items, s, t, found, h => by
    obtain ⟨u, x, y, hitem, hrest, rfl⟩ := Step.andThen_eq_ok_iff.mp h
    rw [foundBy_append, foundBy_all hrest, reportsFrom, reportedAt_of_ok (by rw [hitem]), hitem]

/-- A session that succeeds finds by a check what the check reports at its items. -/
theorem foundBy_judgeLogs {logs : List Changelog} {s : Session} {found : List Finding}
    (h : a.judgeLogs logs .empty = (s, .ok found)) :
    foundBy check found = a.reports check (a.items logs) := by
  rw [judgeLogs_eq_all] at h
  exact foundBy_all h

end Audit

end MigrationAudit
