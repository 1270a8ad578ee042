import MigrationAudit.Text.Pieces

/-!
# File patterns

A file pattern is a path in which a question mark stands for any character, a star for any stretch
of characters, brackets for a character of a list, and a piece of two stars for any directories on
the way.  Without these signs a name is accepted only by itself (`accepts_plain`).
-/

namespace MigrationAudit

open Text

namespace FilePattern

inductive Sign where
  | char (c : Char)
  | anyChar
  | anyStretch
  /-- A character in one of the ranges, or in none of them. -/
  | listed (expected : Bool) (ranges : List (Char × Char))
  deriving DecidableEq, Repr

namespace Sign

/-- The character that stands for itself. -/
def char? : Sign → Option Char
  | char c => some c
  | _ => none

def accepts : Sign → Char → Bool
  | char c, d => c = d
  | listed expected ranges, d => (ranges.any fun r => r.1 ≤ d && d ≤ r.2) == expected
  | anyChar, _ => true
  | anyStretch, _ => true

end Sign

/-- Whether what is left of a text after some stretch of it is accepted. -/
def someRest (accepts : List Char → Bool) : List Char → Bool
  | [] => accepts []
  | c :: cs => accepts (c :: cs) || someRest accepts cs

def accepts : List Sign → List Char → Bool
  | [], cs => cs.isEmpty
  | .anyStretch :: signs, cs => someRest (accepts signs) cs
  | _ :: _, [] => false
  | sign :: signs, c :: cs => sign.accepts c && accepts signs cs

inductive Piece where
  /-- Any directories, one in another. -/
  | anywhere
  | name (signs : List Sign)
  deriving DecidableEq, Repr

/-- The name that a piece without special signs stands for. -/
def plain? (signs : List Sign) : Option String := (signs.mapM Sign.char?).map String.ofList

/-- The ranges in brackets: two characters with a hyphen between are the ends of one. -/
def ranges : List Char → List (Char × Char)
  | first :: '-' :: last :: cs => (first, last) :: ranges cs
  | c :: cs => (c, c) :: ranges cs
  | [] => []

/-- The list at the start of a text, which holds one character at least, and what follows the
bracket that ends it. -/
def listed? (expected : Bool) : List Char → Option (Sign × List Char)
  | [] => none
  | c :: cs => (splitAtFirst? ']' cs).map fun p => (.listed expected (ranges (c :: p.1)), p.2)

theorem length_of_listed? {expected : Bool} {cs rest : List Char} {sign : Sign}
    (h : listed? expected cs = some (sign, rest)) : rest.length < cs.length := by
  cases cs with
  | nil => simp [listed?] at h
  | cons c cs =>
    obtain ⟨p, hp, h⟩ := Option.map_eq_some_iff.mp h
    have := length_of_splitAtFirst? hp
    simp only [Prod.mk.injEq] at h
    simp only [List.length_cons, ← h.2]
    omega

/-- The signs of a piece: a bracket is closed, and no star follows a star. -/
def signs? : List Char → Option (List Sign)
  | [] => some []
  | '*' :: '*' :: _ => none
  | '*' :: cs => (signs? cs).map (.anyStretch :: ·)
  | '?' :: cs => (signs? cs).map (.anyChar :: ·)
  | '[' :: '!' :: cs =>
    match _h : listed? false cs with
    | some (sign, rest) => (signs? rest).map (sign :: ·)
    | none => none
  | '[' :: cs =>
    match _h : listed? true cs with
    | some (sign, rest) => (signs? rest).map (sign :: ·)
    | none => none
  | c :: cs => (signs? cs).map (.char c :: ·)
termination_by cs => cs.length
decreasing_by
  all_goals
    first
    | exact Nat.lt_succ_of_lt (Nat.lt_succ_of_lt (length_of_listed? _h))
    | exact Nat.lt_succ_of_lt (length_of_listed? _h)
    | simp only [List.length_cons]; omega

def piece? : List Char → Option Piece
  | ['*', '*'] => some .anywhere
  | cs => (signs? cs).map .name

theorem accepts_plain (cs ds : List Char) : accepts (cs.map .char) ds = true ↔ ds = cs := by
  induction cs generalizing ds with
  | nil => exact List.isEmpty_iff
  | cons c cs ih =>
    cases ds with
    | nil => exact ⟨nofun, nofun⟩
    | cons d ds =>
      have h : accepts (.char c :: cs.map .char) (d :: ds) =
          (decide (c = d) && accepts (cs.map .char) ds) := rfl
      rw [List.map_cons, h, Bool.and_eq_true, decide_eq_true_eq, ih, List.cons.injEq,
        @eq_comm _ c d]

end FilePattern

structure FilePattern where
  /-- Whether the pattern starts at the root. -/
  absolute : Bool
  pieces : List FilePattern.Piece
  /-- Whether a slash at the end asks for directories. -/
  onlyDirectories : Bool
  deriving DecidableEq, Repr

namespace FilePattern

/-- The stretches between slashes; a slash at the very end ends the last one. -/
def stretches (cs : List Char) : List (List Char) :=
  let ps := Text.pieces '/' cs
  if ps.length > 1 ∧ ps.getLast? = some [] then ps.dropLast else ps

/-- The pattern that a text stands for: brackets are closed in their piece, and two stars in a row
are a piece of their own. -/
def ofText? (text : String) : Option FilePattern := do
  let cs := text.toList
  let absolute := cs.head? = some '/'
  let ps ← (stretches (if absolute then cs.tail else cs)).mapM piece?
  return ⟨absolute, ps, cs.getLast? = some '/'⟩

end FilePattern

end MigrationAudit
