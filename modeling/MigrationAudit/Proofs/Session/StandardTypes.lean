import MigrationAudit.Proofs.Changelog.Plain
import MigrationAudit.Proofs.Rule.Silence
import MigrationAudit.Proofs.Rule.StandardType
import MigrationAudit.Proofs.Schema.Typing
import MigrationAudit.Proofs.Session.Course

/-!
# Standard types in a session

The rules on types judge a declaration as it is written, in upper case and without blank edges; a
schema records its base and its parameter.  Both agree on what is a standard type, on the precision
of a numeric one and on the dimension of a large object (`Typing.standard_ofDeclaration`).  Every
declaration that reaches a schema has gone through these rules, so a session in which they find
nothing ends with standard types alone.
-/

namespace MigrationAudit

open Text

/-- What is recorded as a standard type: its name is one, a numeric type has a precision up to
`greatest`, and a large object has a dimension. -/
structure Typing.Standard (greatest : Nat) (t : Typing) : Prop where
  named : ∀ base, t.base = some base →
    upper base ∈ StandardType.fixedNames ∨ upper base ∈ StandardType.parametricNames
  precise : ∀ base, t.base = some base → sameAsciiCase base "numeric" = true →
    ∃ length precision, t.length = some length ∧ length ≠ "" ∧
      Declaration.precision "type" length = .ok precision ∧ precision ≤ greatest
  dimensioned : ∀ base, t.base = some base → "LOB".toList <:+ (upper base).toList →
    ∃ length, t.length = some length ∧ length ≠ ""

theorem Typing.Standard.mono {t : Typing} {m n : Nat} (h : t.Standard m) (hmn : m ≤ n) :
    t.Standard n := by
  refine ⟨h.named, fun base hb hn => ?_, h.dimensioned⟩
  obtain ⟨length, precision, hl, hne, hp, hle⟩ := h.precise base hb hn
  exact ⟨length, precision, hl, hne, hp, hle.trans hmn⟩

/-! ## Declarations -/

/-- A declaration that keeps the rules on types gives a standard type. -/
theorem Typing.standard_ofDeclaration {greatest : Nat} {declaration : Option String}
    (hs : Rule.standardType.holds declaration = .ok true)
    (hn : (Rule.numericPrecision greatest).holds declaration = .ok true)
    (hl : Rule.lobDimension.holds declaration = .ok true) :
    (Typing.ofDeclaration declaration).Standard greatest := by
  cases declaration with
  | none => constructor <;> simp [Typing.ofDeclaration]
  | some d =>
    have accepted : StandardType.accepts d = true := by simpa [Rule.holds] using hs
    refine ⟨?_, ?_, ?_⟩
    · rintro _ ⟨rfl⟩
      exact StandardType.upper_base_mem accepted
    · rintro _ ⟨rfl⟩ hnumeric
      have hnumeric : StandardType.isNumeric d = true := hnumeric
      simp only [Rule.holds, Option.elim, Rule.precisionHolds, hnumeric, Bool.not_true,
        Bool.false_eq_true, if_false] at hn
      split at hn
      · cases Except.ok.inj hn
      · next hne =>
        cases hp : Declaration.precision "type" (Declaration.parameter d) with
        | error failure => simp [hp, bind, Except.bind] at hn
        | ok precision =>
          simp only [hp, bind, Except.bind, pure, Except.pure, Except.ok.injEq,
            decide_eq_true_eq] at hn
          exact ⟨_, precision, rfl, hne, hp, hn⟩
    · rintro _ ⟨rfl⟩ hlob
      have hlob : StandardType.isLob d = true := List.isSuffixOf_iff_suffix.mpr hlob
      exact ⟨_, rfl, by simpa [Rule.holds, hlob] using hl⟩

/-! ## Sessions -/

/-- The checks that judge types. -/
def typeChecks : List ChangeCheck := [.columns, .standardType, .numericPrecision, .lobDimension]

/-- The greatest precision that some rule on types allows. -/
def Limits.greatestPrecision (l : Limits) : Nat := max l.columnMaxPrecision l.numericMaxPrecision

namespace Check

variable {place : ChangePlace}

theorem standard_of_columns {bounds : ColumnBounds} (h : columns bounds place = .ok [])
    {n : NestedColumn} (hn : n ∈ place.change.columns) :
    (Typing.ofDeclaration (n.text? .type)).Standard bounds.greatestPrecision :=
  Typing.standard_ofDeclaration (holds_of_columns h hn (by simp [columnBindings]))
    (holds_of_columns h hn (by simp [columnBindings]))
    (holds_of_columns h hn (by simp [columnBindings]))

end Check

namespace Audit

variable {a : Audit}

/-- In a session in which the checks of types find nothing, every column that ends up in the schema
has a standard type, if it has any. -/
theorem standard_of_judgeLogs {logs : List Changelog} {s : Session} {found : List Finding}
    (h : a.judgeLogs logs .empty = (s, .ok found))
    (hi : ∀ check ∈ typeChecks, a.policy.ignores check.name = false)
    (hq : ∀ check ∈ typeChecks, ∀ f ∈ found, f.check ≠ check.name) :
    ∀ c ∈ s.schema.columns, c.typing.Standard a.policy.limits.greatestPrecision := by
  have hp := passes_judgeLogs h
  have hall : ∀ earlier, earlier <+: a.judged logs →
      (a.schemaAfter earlier).Typed (Typing.Standard a.policy.limits.greatestPrecision) := by
    refine schemaAfter_induction Schema.typed_empty fun earlier place hplace ih => ?_
    -- a check of types that applies to the change has found nothing with it
    have silent : ∀ check ∈ typeChecks, check.appliesTo place.change.element = true →
        ∃ memory, (check.run a.policy (a.schemaAfter (earlier ++ [place])).store place memory).1 =
          .ok [] := fun check hc happ => hp.silent (hi check hc) (hq check hc) hplace happ
    rw [schemaAfter_append]
    refine (reachable_schemaAfter earlier).columnar.typed_replay _ ih fun e he d hd => ?_
    rcases Change.declaration_cases he hd with ⟨element, n, hn, rfl⟩ | ⟨element, rfl⟩
    · have happ : ChangeCheck.columns.appliesTo place.change.element = true := by
        rcases element with element | element <;> rw [element] <;> decide
      have hn : n ∈ place.change.columns := by
        rcases element with element | element <;>
          simpa [Change.columns, element, Element.nestsColumns] using hn
      obtain ⟨memory, hrun⟩ := silent .columns (by decide) happ
      exact (Check.standard_of_columns hrun hn).mono (le_max_left _ _)
    · have happ : ∀ check ∈ typeChecks.tail, check.appliesTo place.change.element = true := by
        rcases element with element | element <;> rw [element] <;> decide
      obtain ⟨_, hs⟩ := silent .standardType (by decide) (happ _ (by decide))
      obtain ⟨_, hn⟩ := silent .numericPrecision (by decide) (happ _ (by decide))
      obtain ⟨_, hl⟩ := silent .lobDimension (by decide) (happ _ (by decide))
      exact (Typing.standard_ofDeclaration (Check.holds_of_newType hs) (Check.holds_of_newType hn)
        (Check.holds_of_newType hl)).mono (le_max_right _ _)
  rw [hp.schema_eq]
  exact hall _ (List.prefix_refl _)

/-- Types as they are declared and modified, with blanks and in either letter case. -/
def typedLog : Changelog := .ofChanges
  [.ofTexts .createTable [(.tableName, "t")]
      [.ofType "id" "integer", .ofType "a" " Numeric ( 10, 2) ", .ofType "doc" "c(1024)lob"],
    .ofTexts .modifyDataType [(.tableName, "t"), (.columnName, "id"), (.newDataType, "numeric(5)")]
      []]

theorem standard_of_typedLog :
    (plain.judgeLogs [typedLog] .empty).2 = .ok [] ∧
      (∀ check ∈ typeChecks, plain.policy.ignores check.name = false) ∧
      ∀ c ∈ (plain.judgeLogs [typedLog] .empty).1.schema.columns,
        c.typing.Standard plain.policy.limits.greatestPrecision := by
  have found : (plain.judgeLogs [typedLog] .empty).2 = .ok [] := by decide +kernel
  have kept : ∀ check ∈ typeChecks, plain.policy.ignores check.name = false := by decide
  refine ⟨found, kept, ?_⟩
  exact standard_of_judgeLogs (Step.eq_mk_of_snd found) kept fun _ _ => List.forall_mem_nil _

end Audit

end MigrationAudit
