import Mathlib.Logic.Basic
import MigrationAudit.Proofs.Changelog.Plain
import MigrationAudit.Proofs.Text.Pieces
import MigrationAudit.Session.Catalogue

/-!
# Logical paths that can be met

The logical path of a changelog is judged with its first change set and never again in a session
(`SetCheck.runOver_logicalPath`), and the only path that is accepted is the expected one, as long as
it is neither empty nor the path of the file (`Check.logicalPathCause?_eq_none_iff`).  Below a source
directory the expected path is empty for a file right in the directory, unless a suffix is wanted
(`ExpectedPath.forFile_below_eq_empty_iff`): no path is accepted for such a file
(`SetCheck.logicalPath_satisfiable_iff`).
-/

namespace MigrationAudit

/-! ## Expected paths that are empty -/

namespace Path

theorem ne_empty_of_part? {piece : List Char} {s : String} (h : part? piece = some (.name s)) :
    s ≠ "" := by
  unfold part? at h
  split at h
  · cases h
  · cases h
  · cases h
  · rintro rfl
    simp_all

theorem ne_empty_of_mem_parts {path s : String} (h : Part.name s ∈ parts path) : s ≠ "" := by
  have counted : ∀ ps : List (List Char), Part.name s ∈ ps.filterMap part? → s ≠ "" := by
    intro ps hs
    obtain ⟨piece, -, hpiece⟩ := List.mem_filterMap.mp hs
    exact ne_empty_of_part? hpiece
  unfold parts partsOfPieces at h
  split at h
  · cases h
  · cases h
  · exact counted _ (List.mem_of_ne_of_mem Part.noConfusion h)
  · exact counted _ (List.mem_of_ne_of_mem Part.noConfusion h)
  · exact counted _ h

end Path

namespace ExpectedPath

open MigrationAudit.Path

theorem ne_empty_of_mem_directoryNames {directory file n : String}
    (h : n ∈ directoryNames directory file) : n ≠ "" := by
  have hholder : parentParts (parts file) ⊆ parts file := by
    unfold parentParts
    split
    · exact List.nil_subset _
    · exact List.dropLast_subset _
  obtain ⟨part, hpart, hname⟩ := List.mem_filterMap.mp h
  obtain rfl : part = .name n := by
    cases part <;> simp_all [Part.name?]
  apply ne_empty_of_mem_parts (hholder _)
  cases hrest : partsBelow? (parts directory) (parentParts (parts file)) with
  | none => rwa [hrest, Option.getD_none] at hpart
  | some rest =>
    rw [hrest, Option.getD_some] at hpart
    rw [partsBelow?_eq_some_iff.mp hrest]
    exact List.mem_append_right _ hpart

/-- Only what lies between the source directory and the file, or a suffix, makes an expected path
that is not empty. -/
theorem forFile_below_eq_empty_iff (directory file : String) (suffix : Option String) :
    (below directory suffix).forFile file = "" ↔
      suffix = none ∧ directoryNames directory file = [] := by
  have hnames : Text.joinWith "." (directoryNames directory file) = "" ↔
      directoryNames directory file = [] :=
    Text.joinWith_eq_empty_iff fun _ => ne_empty_of_mem_directoryNames
  cases suffix with
  | none => simp [forFile, hnames]
  | some s => simp [forFile]

end ExpectedPath

/-! ## One judgement for each file -/

namespace Check

variable {expected : ExpectedPath} {log : Changelog} {memory : Memory}

theorem logicalPathCause?_eq_none_iff :
    logicalPathCause? expected log = none ↔
      log.logicalFilePath = some (expected.forFile log.physicalFilePath) ∧
        expected.forFile log.physicalFilePath ≠ "" ∧
        expected.forFile log.physicalFilePath ≠ log.physicalFilePath := by
  unfold logicalPathCause?
  cases log.logicalFilePath with
  | none => simp
  | some path =>
    by_cases hpath : path = expected.forFile log.physicalFilePath
    · subst hpath
      simp
    · refine iff_of_false (fun hnone => ?_) (fun h => hpath (Option.some_inj.mp h.1))
      simp only [hpath, ne_eq, not_false_eq_true, if_true] at hnone
      split at hnone <;> cases hnone

theorem logicalPath_of_judged (expected : ExpectedPath)
    (h : log.physicalFilePath ∈ memory.judgedFiles) :
    logicalPath expected log memory = ([], memory) := if_pos h

/-- After its first set a file is judged, whatever is found. -/
theorem judged_logicalPath (expected : ExpectedPath) (log : Changelog) (memory : Memory) :
    log.physicalFilePath ∈ (logicalPath expected log memory).2.judgedFiles := by
  unfold logicalPath
  split
  · assumption
  · exact List.mem_cons_self

theorem logicalPath_eq_nil_iff (h : log.physicalFilePath ∉ memory.judgedFiles) :
    (logicalPath expected log memory).1 = [] ↔ logicalPathCause? expected log = none := by
  rw [logicalPath, if_neg h, List.map_eq_nil_iff, Option.toList_eq_nil_iff]

end Check

namespace SetCheck

open MigrationAudit.Path

/-- What a check finds with change sets one after the other, and what is remembered after them. -/
def runOver (check : SetCheck) (policy : Policy) : List SetPlace → Memory → List Issue × Memory
  | [], memory => ([], memory)
  | place :: places, memory =>
    let found := check.run policy place memory
    let rest := runOver check policy places found.2
    (found.1 ++ rest.1, rest.2)

variable {policy : Policy} {expected : ExpectedPath} {log : Changelog} {memory : Memory}

theorem run_logicalPath (hpolicy : policy.expectedPath = some expected) (place : SetPlace)
    (memory : Memory) :
    run .logicalPath policy place memory = Check.logicalPath expected place.log memory := by
  rw [run, hpolicy]

theorem runOver_logicalPath_of_judged (hpolicy : policy.expectedPath = some expected)
    (hjudged : log.physicalFilePath ∈ memory.judgedFiles) : ∀ sets : List ChangeSet,
    runOver .logicalPath policy (sets.map fun s => ⟨log, s⟩) memory = ([], memory)
  | [] => rfl
  | s :: sets => by
    rw [List.map_cons, runOver, run_logicalPath hpolicy,
      Check.logicalPath_of_judged expected hjudged]
    simp only [runOver_logicalPath_of_judged hpolicy hjudged sets, List.append_nil]

/-- A changelog with sets is judged like its first set, whatever follows. -/
theorem runOver_logicalPath (hpolicy : policy.expectedPath = some expected)
    (hsets : log.changeSets ≠ []) :
    runOver .logicalPath policy log.places memory = Check.logicalPath expected log memory := by
  obtain ⟨s, sets, hcons⟩ := List.exists_cons_of_ne_nil hsets
  rw [Changelog.places, hcons, List.map_cons, runOver, run_logicalPath hpolicy,
    runOver_logicalPath_of_judged hpolicy (Check.judged_logicalPath expected log memory) sets]
  simp only [List.append_nil]

/-- The logical paths that a session accepts from its start: the expected one, if it is a path at
all and not that of the file. -/
theorem runOver_logicalPath_eq_nil_iff (hpolicy : policy.expectedPath = some expected) :
    (runOver .logicalPath policy log.places .empty).1 = [] ↔
      log.changeSets = [] ∨
        log.logicalFilePath = some (expected.forFile log.physicalFilePath) ∧
          expected.forFile log.physicalFilePath ≠ "" ∧
          expected.forFile log.physicalFilePath ≠ log.physicalFilePath := by
  by_cases hsets : log.changeSets = []
  · simp [Changelog.places, hsets, runOver]
  · have hfresh : log.physicalFilePath ∉ Memory.empty.judgedFiles := List.not_mem_nil
    rw [runOver_logicalPath hpolicy hsets, Check.logicalPath_eq_nil_iff hfresh,
      Check.logicalPathCause?_eq_none_iff, or_iff_right hsets]

/-- Some logical path is accepted below a source directory exactly if the expected one is not empty,
which takes a directory in between or a suffix, and is not the path of the file. -/
theorem logicalPath_satisfiable_iff (policy : Policy) (directory : String) (suffix : Option String)
    (log : Changelog) :
    (∃ path : String,
        (runOver .logicalPath { policy with expectedPath := some (.below directory suffix) }
          { log with logicalFilePath := some path }.places .empty).1 = []) ↔
      log.changeSets = [] ∨
        (suffix ≠ none ∨
          ExpectedPath.directoryNames directory log.physicalFilePath ≠ []) ∧
        (ExpectedPath.below directory suffix).forFile log.physicalFilePath ≠
          log.physicalFilePath := by
  have hpolicy : { policy with expectedPath := some (.below directory suffix) }.expectedPath =
      some (.below directory suffix) := rfl
  have wanted := not_congr
    (ExpectedPath.forFile_below_eq_empty_iff directory log.physicalFilePath suffix)
  rw [not_and_or] at wanted
  simp only [runOver_logicalPath_eq_nil_iff hpolicy, Option.some.injEq, exists_or, exists_const,
    exists_and_right, exists_eq, true_and, ne_eq, wanted]

/-- Right in the source directory a file is expected to have the empty path, and that is none. -/
theorem logicalPath_unsatisfiable_in_directory :
    partsBelow? (parts "db") (parts "db/changelog.json") = some [.name "changelog.json"] ∧
      ∀ (policy : Policy) (path : Option String),
        (runOver .logicalPath { policy with expectedPath := some (.below "db" none) }
          (Changelog.places ⟨path, "db/changelog.json", [.ofChanges []]⟩) .empty).1 ≠ [] := by
  have hexpected : (ExpectedPath.below "db" none).forFile "db/changelog.json" = "" := by decide
  refine ⟨by decide, fun policy path hnone => ?_⟩
  rcases (runOver_logicalPath_eq_nil_iff rfl).mp hnone with hsets | ⟨-, hne, -⟩
  · cases hsets
  · exact hne hexpected

end SetCheck

end MigrationAudit
