import MigrationAudit.Check.ColumnDeclaration
import MigrationAudit.Check.Portability
import MigrationAudit.Proofs.Changelog.Plain
import MigrationAudit.Proofs.Declaration
import MigrationAudit.Storage.Size

/-!
# Reading a type in upper case

Some checks put a declaration in upper case and then take it apart, others take it apart and put the
parts in upper case.  Upper case neither makes nor removes a parenthesis or a blank, so both ways
read the same base and the same parameter (`TypeReading.base_eq`, `TypeReading.parameter_eq`), and
what the checks say of a type is what either of them calls for (`Check.readings_agree`).
-/

namespace MigrationAudit

open Text

/-- What is done with a declaration first. -/
inductive TypeReading where
  | upperCase
  | parts

namespace TypeReading

def base : TypeReading → String → String
  | upperCase, s => Declaration.base (upper s)
  | parts, s => upper (Declaration.base s)

def parameter : TypeReading → String → String
  | upperCase, s => Declaration.parameter (upper s)
  | parts, s => upper (Declaration.parameter s)

theorem base_eq : ∀ (r : TypeReading) (s : String), r.base s = upper (Declaration.base s)
  | upperCase, s => Declaration.base_upper s
  | parts, _ => rfl

theorem parameter_eq : ∀ (r : TypeReading) (s : String),
    r.parameter s = upper (Declaration.parameter s)
  | upperCase, s => Declaration.parameter_upper s
  | parts, _ => rfl

theorem parameter_eq_empty_iff (r : TypeReading) (s : String) :
    r.parameter s = "" ↔ Declaration.parameter s = "" := by
  rw [r.parameter_eq, upper_eq_empty_iff]

end TypeReading

namespace Check

/-- What rules and checks say of a type, and how a column of that type is stored, follows from its
base and its parameter as they are read. -/
structure JudgedBy (r : TypeReading) (s : String) : Prop where
  -- a fixed name takes no parameter, so the whole declaration is compared with it
  standardType : Rule.standardType.holds (some s) = .ok
    (upper (trim s) ∈ StandardType.fixedNames || r.base s ∈ StandardType.parametricNames)
  lobDimension : Rule.lobDimension.holds (some s) = .ok
    (!"LOB".toList.isSuffixOf (r.base s).toList || r.parameter s != "")
  typedDefault : typedDefault? s =
    if r.base s = "BOOLEAN" then some "defaultBooleanValue"
    else if r.base s ∈ ["INTEGER", "SMALLINT", "BIGINT", "REAL", "DOUBLE PRECISION", "DECIMAL",
        "NUMERIC", "FLOAT"] then some "defaultNumericValue"
    else if r.base s ∈ ["TIMESTAMP", "DATE"] then some "defaultDateValue"
    else none
  modified : ∀ place : ChangePlace, place.change.element = .modifyDataType →
    place.change.text? .newDataType = some s → modifiedToLob place =
      if r.base s = "CLOB" ∨ r.base s = "BLOB"
        then [columnIssue place (some "modifyDataType") (.modifiedToLob (r.base s))] else []
  copied : ∀ (place : ChangePlace) (source : String), place.change.element = .copyColumn →
    place.change.text? .fromType = some source → place.change.text? .toType = some s →
      copiedColumn place = do
        let issues ← onFields .standardType (labels [.toType, .fromType]) place
        return issues ++ (conversion? (r.base source) (r.base s)).toList.map fun p =>
          Issue.ofChange place (some p.1.label) p.2
  stored : ∀ (c : Column) (name : String), c.dataType = some (Declaration.base s) →
    upper name = r.base s → Storage.storedType? c = Storage.StoredType.ofName? name

theorem judgedBy (r : TypeReading) (s : String) : JudgedBy r s where
  standardType := by
    rw [Rule.holds, Option.all_some, StandardType.accepts, Declaration.base_upper_trim, r.base_eq]
  lobDimension := by
    have dimension : (r.parameter s != "") = (Declaration.parameter s != "") := by
      rw [Bool.eq_iff_iff, bne_iff_ne, bne_iff_ne, Ne, Ne, r.parameter_eq_empty_iff]
    rw [Rule.holds, Option.all_some, StandardType.isLob, r.base_eq, dimension]
  typedDefault := by
    rw [typedDefault?, Declaration.base_upper_trim, r.base_eq]
  modified place helement htype := by
    simp only [modifiedToLob, helement, htype]
    rw [Declaration.base_upper, r.base_eq]
  copied place source helement hsource htarget := by
    have read : ∀ t, upperBase (some t) = r.base t := fun t => (r.base_eq t).symm
    simp only [copiedColumn, helement, hsource, htarget, read, if_true]
  stored c name htype hname := by
    rw [Storage.storedType?, htype, Option.bind_some, Storage.StoredType.ofName?,
      Storage.StoredType.ofName?, hname, r.base_eq]

/-- It does not matter whether a declaration is put in upper case before it is taken apart or its
parts are afterwards, neither for the parts nor for what the checks say of the type. -/
theorem readings_agree (s : String) :
    upper (Declaration.base s) = Declaration.base (upper s) ∧
      upper (Declaration.parameter s) = Declaration.parameter (upper s) ∧
        ∀ r : TypeReading, JudgedBy r s :=
  ⟨(Declaration.base_upper s).symm, (Declaration.parameter_upper s).symm, (judgedBy · s)⟩

/-- The upper case of the parameter is longer than the parameter, and the base is the one name for
the check of a modification, for that of a copy and for the storage. -/
theorem readings_agree_of_sharp_s :
    let s := "clob (ß) "
    let modification := ChangePlace.alone (.ofTexts .modifyDataType [(.newDataType, s)] [])
    let copy := ChangePlace.alone (.ofTexts .copyColumn [(.fromType, "date(ŉ)"), (.toType, s)] [])
    let column := { Column.fresh "t" "c" with dataType := some (Declaration.base s) }
    Declaration.parameter (upper s) = "SS" ∧
      modifiedToLob modification =
        [columnIssue modification (some "modifyDataType") (.modifiedToLob "CLOB")] ∧
      (copiedColumn copy).toOption.map (·.map (·.cause)) =
        some [.nonStandardType (some "date(ŉ)"), .notConvertibleToClob "DATE"] ∧
      Storage.storedType? column = some .lob := by
  intro s modification copy column
  obtain ⟨-, hparameter, judged⟩ := readings_agree s
  have hbase : TypeReading.parts.base s = "CLOB" := by decide +kernel
  have hsource : TypeReading.parts.base "date(ŉ)" = "DATE" := by decide +kernel
  refine ⟨?_, ?_, ?_, ?_⟩
  · rw [← hparameter]
    decide +kernel
  · rw [(judged .parts).modified modification rfl rfl, hbase]
    rfl
  · rw [(judged .parts).copied copy "date(ŉ)" rfl rfl rfl, hbase, hsource]
    decide +kernel
  · rw [(judged .parts).stored column "CLOB" rfl (by decide +kernel)]
    decide +kernel

end Check

end MigrationAudit
