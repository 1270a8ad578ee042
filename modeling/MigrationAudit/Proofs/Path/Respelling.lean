import Mathlib.Logic.Relation
import MigrationAudit.Path.Expected
import MigrationAudit.Proofs.Text.Pieces

/-!
# Paths spelled in other ways

What follows a slash adds its own parts to those of the path up to the slash
(`parts_append_slash_append`).  So slashes repeated and dots between slashes make no difference,
wherever they are inserted (`parts_of_respelled`), nor does a slash at the end
(`parts_append_slash`), and a path of names has these names as its parts (`parts_written`).  The
logical path that is expected below a source directory is made of the names between that directory
and the file, however both are spelled (`ExpectedPath.forFile_respelled`).
-/

namespace MigrationAudit

namespace Path

/-! ## Slashes that do not count -/

/-- The part that the first piece of a path stands for, unless it is the whole path and empty. -/
def leadingPart? (p : List Char) : Option Part :=
  if p = [] then some .root else if p = ['.'] then some .current else part? p

theorem partsOfPieces_cons {p : List Char} {ps : List (List Char)} (h : p ≠ [] ∨ ps ≠ []) :
    partsOfPieces (p :: ps) = (leadingPart? p).toList ++ ps.filterMap part? := by
  by_cases hroot : p = []
  · subst hroot
    obtain ⟨q, qs, rfl⟩ := List.exists_cons_of_ne_nil (h.resolve_left (· rfl))
    rfl
  · by_cases hdot : p = ['.']
    · subst hdot
      rfl
    · have own : partsOfPieces (p :: ps) = (p :: ps).filterMap part? := by
        unfold partsOfPieces
        split <;> simp_all
      rw [own, leadingPart?, if_neg hroot, if_neg hdot]
      cases hp : part? p <;> simp [hp]

theorem parts_append_slash_eq (s t : String) :
    parts (s ++ "/" ++ t) = partsOfPieces (s.toList.splitOn '/' ++ t.toList.splitOn '/') := by
  rw [parts, Text.pieces_eq_splitOn, ← List.splitOn_append_cons_self]
  simp

/-- A slash at the end of a path does not count. -/
theorem parts_append_slash {s : String} (h : s ≠ "") : parts (s ++ "/") = parts s := by
  obtain ⟨p, ps, hp⟩ := List.exists_cons_of_ne_nil (List.splitOn_ne_nil '/' s.toList)
  have some_piece : p ≠ [] ∨ ps ≠ [] := by
    by_contra hnone
    simp only [not_or, not_not] at hnone
    rw [hnone.1, hnone.2] at hp
    have joined : ['/'].intercalate (s.toList.splitOn '/') = s.toList :=
      List.intercalate_splitOn '/'
    rw [hp] at joined
    exact h (String.toList_inj.mp joined.symm)
  have ends := parts_append_slash_eq s ""
  rw [String.append_empty, hp, List.cons_append,
    partsOfPieces_cons (some_piece.imp_right fun _ => by simp)] at ends
  rw [ends, parts, Text.pieces_eq_splitOn, hp, partsOfPieces_cons some_piece]
  simp [part?]

/-- What comes after a slash has parts of its own, among which there is neither a root nor a dot. -/
theorem parts_append_slash_append (s t : String) :
    parts (s ++ "/" ++ t) = parts (s ++ "/") ++ (t.toList.splitOn '/').filterMap part? := by
  obtain ⟨p, ps, hp⟩ := List.exists_cons_of_ne_nil (List.splitOn_ne_nil '/' s.toList)
  have ends := parts_append_slash_eq s ""
  rw [String.append_empty, hp, List.cons_append, partsOfPieces_cons (.inr (by simp))] at ends
  rw [parts_append_slash_eq, ends, hp, List.cons_append,
    partsOfPieces_cons (.inr (by simp [List.splitOn_ne_nil]))]
  simp [part?]

/-! ## Insertions at slashes -/

/-- At a slash of the path there is another slash, or a dot and another slash. -/
inductive Inserts : String → String → Prop
  | slash (s t : String) : Inserts (s ++ "/" ++ t) (s ++ "//" ++ t)
  | dot (s t : String) : Inserts (s ++ "/" ++ t) (s ++ "/./" ++ t)

/-- Slashes, and dots between slashes, are inserted one after the other. -/
def Respelled : String → String → Prop := Relation.ReflTransGen Inserts

/-- A piece that does not count may stand between slashes. -/
theorem parts_insert {p : String} (hp : '/' ∉ p.toList) (hpart : part? p.toList = none)
    (s t : String) : parts (s ++ ("/" ++ p ++ "/") ++ t) = parts (s ++ "/" ++ t) := by
  have cut : (p ++ "/" ++ t).toList.splitOn '/' = p.toList :: t.toList.splitOn '/' := by
    rw [← List.singleton_append, ← List.splitOn_eq_singleton hp, ← List.splitOn_append_cons_self]
    simp
  have grouped : s ++ ("/" ++ p ++ "/") ++ t = s ++ "/" ++ (p ++ "/" ++ t) := by
    simp only [String.append_assoc]
  rw [grouped, parts_append_slash_append, cut, List.filterMap_cons_none hpart,
    ← parts_append_slash_append]

theorem parts_of_inserts {s t : String} (h : Inserts s t) : parts t = parts s := by
  cases h with
  | slash s t => exact parts_insert (p := "") (by decide) rfl s t
  | dot s t => exact parts_insert (p := ".") (by decide) rfl s t

theorem parts_of_respelled {s t : String} (h : Respelled s t) : parts t = parts s := by
  induction h with
  | refl => rfl
  | tail _ h ih => exact (parts_of_inserts h).trans ih

/-! ## Paths of names -/

/-- A name that a directory or a file may have. -/
structure EntryName where
  text : String
  slash_not_mem : '/' ∉ text.toList
  ne_empty : text ≠ ""
  ne_dot : text ≠ "."
  ne_dots : text ≠ ".."

def EntryName.part (n : EntryName) : Part := .name n.text

/-- The names one below the other, from the root if the path is absolute. -/
def written (absolute : Bool) (names : List EntryName) : String :=
  (if absolute then "/" else "") ++ "/".intercalate (names.map EntryName.text)

theorem EntryName.part?_text (n : EntryName) : part? n.text.toList = some n.part := by
  have hne := n.ne_empty
  have hdot := n.ne_dot
  have hdots := n.ne_dots
  rw [ne_eq, ← String.toList_inj] at hne hdot hdots
  unfold part?
  split <;> simp_all [EntryName.part]

theorem EntryName.leadingPart?_text (n : EntryName) : leadingPart? n.text.toList = some n.part := by
  have hne : n.text.toList ≠ [] := fun h => n.ne_empty (String.toList_inj.mp h)
  have hdot : n.text.toList ≠ ['.'] := fun h => n.ne_dot (String.toList_inj.mp h)
  rw [leadingPart?, if_neg hne, if_neg hdot, n.part?_text]

theorem filterMap_part?_texts : ∀ names : List EntryName,
    (names.map fun n => n.text.toList).filterMap part? = names.map EntryName.part
  | [] => rfl
  | n :: names => by
    rw [List.map_cons, List.filterMap_cons_some n.part?_text, filterMap_part?_texts names,
      List.map_cons]

theorem splitOn_joined {n : EntryName} {names : List EntryName} :
    ("/".intercalate ((n :: names).map EntryName.text)).toList.splitOn '/' =
      (n :: names).map fun n => n.text.toList := by
  rw [String.toList_intercalate, List.map_map]
  refine List.splitOn_intercalate '/' ?_ (by simp)
  exact List.forall_mem_map.mpr fun n _ => n.slash_not_mem

theorem parts_written (absolute : Bool) (names : List EntryName) :
    parts (written absolute names) =
      (if absolute then [.root] else []) ++ names.map EntryName.part := by
  unfold written
  cases absolute with
  | false =>
    rw [if_neg Bool.false_ne_true, if_neg Bool.false_ne_true, String.empty_append, List.nil_append]
    cases names with
    | nil => rfl
    | cons n names =>
      rw [parts, Text.pieces_eq_splitOn, splitOn_joined, List.map_cons, partsOfPieces_cons
        (.inl fun h => n.ne_empty (String.toList_inj.mp h)), n.leadingPart?_text,
        filterMap_part?_texts]
      rfl
  | true =>
    have below := parts_append_slash_append "" ("/".intercalate (names.map EntryName.text))
    rw [String.empty_append] at below
    rw [if_pos rfl, if_pos rfl, below]
    cases names with
    | nil => rfl
    | cons n names =>
      rw [splitOn_joined, filterMap_part?_texts]
      rfl

theorem eq_nil_of_written {absolute : Bool} {names : List EntryName}
    (h : written absolute names = "") : absolute = false ∧ names = [] := by
  have hparts := parts_written absolute names
  rw [h] at hparts
  cases absolute with
  | false => exact ⟨rfl, List.map_eq_nil_iff.mp hparts.symm⟩
  | true => cases hparts

theorem parentParts_append_name (ps : List Part) (n : EntryName) :
    parentParts (ps ++ [n.part]) = ps := by
  have hroot : ps ++ [n.part] ≠ [.root] := by
    intro h
    have last := congrArg List.getLast? h
    rw [List.getLast?_concat] at last
    cases last
  rw [parentParts, if_neg hroot, List.dropLast_concat]

theorem filterMap_name?_parts (names : List EntryName) :
    (names.map EntryName.part).filterMap Part.name? = names.map EntryName.text := by
  rw [List.filterMap_map]
  exact congrFun List.filterMap_eq_map names

end Path

open MigrationAudit.Path

namespace ExpectedPath

variable {absolute : Bool} {above between : List EntryName} {file : EntryName}
  {directory path : String}

/-- The directories between are those of the file that are not above it, and all of them if the
source directory is the root and the path is not absolute. -/
theorem directoryNames_eq (hdirectory : parts directory = parts (written absolute above) ∨
      absolute = false ∧ above = [] ∧ parts directory = [.root])
    (hpath : parts path = parts (written absolute (above ++ between ++ [file]))) :
    directoryNames directory path = between.map EntryName.text := by
  have holder : parentParts (parts path) =
      parts (written absolute above) ++ between.map EntryName.part := by
    rw [hpath, parts_written, parts_written, List.map_append, List.map_append, List.map_singleton,
      ← List.append_assoc, ← List.append_assoc, parentParts_append_name]
  rw [directoryNames, holder]
  rcases hdirectory with hdirectory | ⟨rfl, rfl, hdirectory⟩
  · rw [hdirectory, partsBelow?_append, Option.getD_some, filterMap_name?_parts]
  · have apart : partsBelow? [.root] (between.map EntryName.part) = none := by
      cases between <;> rfl
    have own : parts (written false []) ++ between.map EntryName.part =
        between.map EntryName.part := rfl
    rw [own, hdirectory, apart, Option.getD_none, filterMap_name?_parts]

/-- The names of the directories between a source directory and a file, joined by dots and with the
suffix behind a dot, are the logical path that is expected of the file, even if slashes are
repeated and dots put between them, or a slash ends the source directory. -/
theorem forFile_respelled (suffix : Option String)
    (hdirectory : Respelled (written absolute above) directory ∨
      Respelled (written absolute above ++ "/") directory)
    (hpath : Respelled (written absolute (above ++ between ++ [file])) path) :
    (below directory suffix).forFile path =
      ".".intercalate (between.map EntryName.text) ++ suffix.elim "" ("." ++ ·) := by
  have spelled : parts directory = parts (written absolute above) ∨
      absolute = false ∧ above = [] ∧ parts directory = [.root] := by
    rcases hdirectory with h | h
    · exact .inl (parts_of_respelled h)
    · by_cases hempty : written absolute above = ""
      · obtain ⟨rfl, rfl⟩ := eq_nil_of_written hempty
        exact .inr ⟨rfl, rfl, parts_of_respelled h⟩
      · exact .inl ((parts_of_respelled h).trans (parts_append_slash hempty))
  rw [forFile, directoryNames_eq spelled (parts_of_respelled hpath), Text.joinWith_eq_intercalate]

/-- A slash more in the path of the file, a dot farther down, and a slash behind the source
directory. -/
theorem forFile_of_doubled_slash_and_dot : ∃ (above between : List EntryName) (file : EntryName),
    Respelled (written false above ++ "/") "src/main/" ∧
      Respelled (written false (above ++ between ++ [file])) "src//main/com/./acme/log.json" ∧
      (below "src/main/" (some "db")).forFile "src//main/com/./acme/log.json" = "com.acme.db" := by
  let src : EntryName := ⟨"src", by decide, by decide, by decide, by decide⟩
  let main : EntryName := ⟨"main", by decide, by decide, by decide, by decide⟩
  let com : EntryName := ⟨"com", by decide, by decide, by decide, by decide⟩
  let acme : EntryName := ⟨"acme", by decide, by decide, by decide, by decide⟩
  let log : EntryName := ⟨"log.json", by decide, by decide, by decide, by decide⟩
  have hdirectory : Respelled (written false [src, main] ++ "/") "src/main/" := by
    have plain : written false [src, main] ++ "/" = "src/main/" := by decide
    rw [plain]
    exact .refl
  have hpath : Respelled (written false ([src, main] ++ [com, acme] ++ [log]))
      "src//main/com/./acme/log.json" := by
    have plain : written false ([src, main] ++ [com, acme] ++ [log]) =
        "src" ++ "/" ++ "main/com/acme/log.json" := by decide
    have doubled : Inserts ("src" ++ "/" ++ "main/com/acme/log.json")
        ("src//main/com" ++ "/" ++ "acme/log.json") := .slash "src" "main/com/acme/log.json"
    rw [plain]
    exact .tail (.single doubled) (.dot "src//main/com" "acme/log.json")
  exact ⟨[src, main], [com, acme], log, hdirectory, hpath,
    forFile_respelled (some "db") (.inr hdirectory) hpath⟩

end ExpectedPath

end MigrationAudit
