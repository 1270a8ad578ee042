import MigrationAudit.Changelog.Reading
import MigrationAudit.Failure
import MigrationAudit.Files.Expansion

/-!
# Sources of changelogs

Changelogs are found below a directory, by the extension of their names, and by file patterns.  They
are read in the order of their paths, each path once and no path that was not found
(`mem_orderedPaths`).  A changelog that does not say where it is stored is stored where it was read.
-/

namespace MigrationAudit

namespace FileSystem

/-- A path put in its place among paths in order, unless it is there already, perhaps with another
spelling. -/
def placePath (path : String) : List String → List String
  | [] => [path]
  | p :: ps =>
    if Path.partsBefore (Path.parts path) (Path.parts p) then path :: p :: ps
    else if Path.parts path = Path.parts p then p :: ps
    else p :: placePath path ps

/-- The paths in order, each once and in the spelling in which it came first. -/
def orderedPaths (paths : List String) : List String :=
  paths.foldl (fun ps path => placePath path ps) []

/-- What follows the last dot of a name, if something comes before that dot. -/
def extension? (name : List Char) : Option (List Char) :=
  let ending := name.reverse.takeWhile (· ≠ '.')
  if name.length ≤ ending.length + 1 then none else some ending.reverse

/-- Whether a path has an extension; letters of the basic alphabet count without their case. -/
def hasExtension (extension : List Char) (path : String) : Bool :=
  ((Path.parts path).getLast?.bind Path.Part.name?).any fun name =>
    (extension? name.toList).any fun found => found.map Char.toLower = extension.map Char.toLower

/-- The files with an extension in a directory and below it; dots before the extension do not
count. -/
def filesBelow (fs : FileSystem) (directory extension : String) :
    Except Failure (List String) :=
  match fs.get? directory with
  | none => .error (.unwalkableDirectory directory)
  | some t =>
    let found := (directory, t) :: t.contents.map fun e => (e.1.foldl join directory, e.2)
    let wanted := extension.toList.dropWhile (· = '.')
    .ok (orderedPaths
      ((found.filter fun e => !e.2.isDirectory && hasExtension wanted e.1).map (·.1)))

/-- The files that a pattern stands for. -/
def filesOfPattern (fs : FileSystem) (text : String) : Except Failure (List String) :=
  match FilePattern.ofText? text with
  | none => .error (.invalidFilePattern text)
  | some pattern => .ok ((pattern.paths fs).filter fs.isFile)

/-- The files that some patterns stand for. -/
def filesOfPatterns (fs : FileSystem) (patterns : List String) : Except Failure (List String) := do
  let found ← patterns.mapM fs.filesOfPattern
  return orderedPaths found.flatten

/-- The changelog at a path. -/
def changelog (fs : FileSystem) (path : String) : Except Failure Changelog :=
  match fs.text? path with
  | none => .error (.unreadableChangelog path)
  | some text =>
    match Changelog.ofText text with
    | .error _ => .error (.malformedChangelog path)
    | .ok log =>
      if log.physicalFilePath = "" then
        .ok { log with
          physicalFilePath := String.ofList (path.toList.map fun c => if c = '\\' then '/' else c) }
      else .ok log

theorem mem_placePath {path p : String} {ps : List String} (h : p ∈ placePath path ps) :
    p = path ∨ p ∈ ps := by
  induction ps with
  | nil => simpa [placePath] using h
  | cons q qs ih =>
    unfold placePath at h
    split at h
    · simpa using h
    · split at h
      · exact Or.inr h
      · rcases List.mem_cons.mp h with rfl | h
        · simp
        · rcases ih h with h | h <;> simp [h]

/-- Ordering brings in no path. -/
theorem mem_orderedPaths {p : String} {paths : List String} (h : p ∈ orderedPaths paths) :
    p ∈ paths := by
  suffices hs : ∀ ps, p ∈ paths.foldl (fun ps path => placePath path ps) ps → p ∈ ps ∨ p ∈ paths by
    simpa using hs [] h
  clear h
  induction paths with
  | nil => exact fun ps h => Or.inl h
  | cons path paths ih =>
    intro ps h
    rcases ih _ h with h | h
    · rcases mem_placePath h with h | h <;> simp [h]
    · simp [h]

end FileSystem

/-- Where changelogs come from. -/
structure Sources where
  directory : Option String
  patterns : List String
  /-- The extension of changelogs in the directory. -/
  extension : String
  deriving DecidableEq, Repr

namespace Sources

def defaultExtension : String := "json"

/-- The paths of the changelogs; a path that a pattern finds keeps its spelling there. -/
def paths (sources : Sources) (fs : FileSystem) : Except Failure (List String) := do
  let matching ← fs.filesOfPatterns sources.patterns
  match sources.directory with
  | none => return matching
  | some directory =>
    return FileSystem.orderedPaths (matching ++ (← fs.filesBelow directory sources.extension))

def changelogs (sources : Sources) (fs : FileSystem) : Except Failure (List Changelog) := do
  (← sources.paths fs).mapM fs.changelog

end Sources

end MigrationAudit
