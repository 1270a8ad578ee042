import MigrationAudit.Command.Run

/-!
# The program

The program takes a picture of the part of the disk that its arguments are about, runs the command
on it and prints what comes out.  Texts are read for the files that are looked into, and for no
others.
-/

namespace MigrationAudit.Program

/-- What stands at an entry of a directory, files without their texts. -/
partial def outline (entry : IO.FS.DirEntry) : IO FileTree := do
  if ← entry.path.isDir then
    let entries ← entry.path.readDir
    return .directory (← entries.toList.mapM fun e => do return (e.fileName, ← outline e))
  else return .file none

/-- The picture with what stands at a path, if anything does. -/
def withOutline (fs : FileSystem) (path : String) : IO FileSystem := do
  let entry : IO.FS.DirEntry := ⟨← IO.currentDir, path⟩
  if ← entry.path.pathExists then
    let place ← IO.FS.realPath entry.path
    return { fs with root := fs.root.put (← outline entry) (place.components.filter (· ≠ "")) }
  else return fs

/-- The picture with the text of a file, if it is there and has one. -/
def withText (fs : FileSystem) (path : String) : IO FileSystem := do
  let entry : IO.FS.DirEntry := ⟨← IO.currentDir, path⟩
  match fs.resolve? path with
  | none => return fs
  | some place =>
    let text? ← try (some <$> IO.FS.readFile entry.path) catch _ => pure none
    return { fs with root := fs.root.put (.file text?) place }

/-- The paths that a request names. -/
def namedPaths (r : Request) : List String :=
  r.config.toList ++ r.source.toList ++ r.changelogs.filterMap fun text =>
    (FilePattern.ofText? text).map FilePattern.fixedPath

/-- The files that a request reads. -/
def readPaths (r : Request) (fs : FileSystem) : List String :=
  r.config.toList ++ (r.sources.paths fs).toOption.getD []

def picture (r : Request) : IO FileSystem := do
  let here := (← IO.currentDir).components.filter (· ≠ "")
  let fs ← (namedPaths r).foldlM withOutline ⟨FileTree.empty.putDirectory here, here⟩
  (readPaths r fs).foldlM withText fs

/-- Names of eight digits, starting anywhere; the odd factor keeps the first 2^32 apart. -/
def namingFrom (start : Nat) : Naming := fun n =>
  let digits := Nat.toDigits 16 ((start + n * 0x9e3779b1) % 0x100000000)
  String.ofList (List.replicate (8 - digits.length) '0' ++ digits)

def naming : IO Naming := do
  let bytes ← IO.getRandomBytes 4
  return namingFrom (bytes.toList.foldl (fun n b => n * 256 + b.toNat) 0)

end MigrationAudit.Program

open MigrationAudit in
def main (arguments : List String) : IO UInt32 := do
  let fs ← match Invocation.ofArguments arguments with
    | .ok (.validate request) => Program.picture request
    | _ => pure ⟨.empty, []⟩
  let outcome := runCommand "migration-audit 0.1.0" (← Program.naming) fs arguments
  IO.print outcome.output
  if let some complaint := outcome.complaint? then IO.eprintln s!"Error: {complaint}"
  return outcome.exitCode.toUInt32
