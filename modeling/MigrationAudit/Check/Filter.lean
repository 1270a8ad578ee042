import MigrationAudit.Check.Basic
import MigrationAudit.Text.Blank

/-!
# Elements that settings allow

A filter lists elements that alone are included and elements that are excluded.  No element is in
both lists (`Filter.ofNames_disjoint`), and an empty list of included elements includes all.
-/

namespace MigrationAudit

structure Filter where
  included : List Element
  excluded : List Element
  deriving DecidableEq, Repr

namespace Filter

/-- The elements with the names; blank edges of a name do not matter. -/
def elements : List String → Except Failure (List Element)
  | [] => .ok []
  | name :: names =>
    match Element.ofName? (Text.trim name) with
    | none => .error (.unknownChangeType name)
    | some e => do
      let es ← elements names
      return e :: es

/-- What two lists of elements share, in the order of all elements. -/
def overlap (es fs : List Element) : List Element :=
  Element.all.filter fun e => decide (e ∈ es) && decide (e ∈ fs)

def ofNames (inclusions exclusions : List String) : Except Failure Filter := do
  let included ← elements inclusions
  let excluded ← elements exclusions
  match overlap included excluded with
  | [] => return ⟨included, excluded⟩
  | shared => throw (.overlappingFilters (shared.map Element.name))

/-- Why the filter rejects an element, if it does. -/
def rejection? (f : Filter) (e : Element) : Option Cause :=
  if e ∈ f.excluded then some (.excludedElement e)
  else if f.included ≠ [] ∧ e ∉ f.included then some (.notIncludedElement e)
  else none

theorem ofNames_disjoint {inclusions exclusions : List String} {f : Filter}
    (h : ofNames inclusions exclusions = .ok f) : ∀ e ∈ f.included, e ∉ f.excluded := by
  unfold ofNames at h
  cases hi : elements inclusions with
  | error _ => simp [hi, bind, Except.bind] at h
  | ok included =>
    cases hx : elements exclusions with
    | error _ => simp [hi, hx, bind, Except.bind] at h
    | ok excluded =>
      simp only [hi, hx, bind, Except.bind] at h
      split at h
      · next hn =>
        cases h
        intro e hi hx
        have : e ∈ overlap included excluded := by simp [overlap, Element.mem_all, hi, hx]
        simp [hn] at this
      · cases h

end Filter

namespace Check

/-- Elements that the filter rejects. -/
def filtered (filter : Filter) (place : ChangePlace) : List Issue :=
  onChange place none (filter.rejection? place.change.element)

end Check

end MigrationAudit
