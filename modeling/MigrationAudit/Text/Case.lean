import MigrationAudit.Text.CaseTable

/-!
# Upper and lower case

Upper and lower case follow the Unicode mappings character by character, so the upper case of a
concatenation is that of its parts (`upperChars_append`).  A capital sigma becomes the medial small
sigma wherever it stands.  Comparison up to case is comparison of ASCII letters only.
-/

namespace MigrationAudit.Text

/-- The other case of a character, if a run covers it.  Runs are in order of their first
character, so the search ends at the first run that starts beyond it. -/
def shifted? (n : Nat) : List CaseRun → Option Nat
  | [] => none
  | r :: rs =>
    if n < r.first then none
    else if n ≤ r.last && (n - r.first) % r.step == 0 then some (Int.toNat (n + r.shift))
    else shifted? n rs

def caseMapping (runs : List CaseRun) (sequences : List (Nat × List Nat)) (c : Char) : List Char :=
  match shifted? c.toNat runs with
  | some n => [Char.ofNat n]
  | none =>
    match sequences.lookup c.toNat with
    | some ns => ns.map Char.ofNat
    | none => [c]

def upperChar (c : Char) : List Char := caseMapping upperRuns upperSequences c

def lowerChar (c : Char) : List Char := caseMapping lowerRuns lowerSequences c

def upperChars (cs : List Char) : List Char := cs.flatMap upperChar

def lowerChars (cs : List Char) : List Char := cs.flatMap lowerChar

def upper (s : String) : String := String.ofList (upperChars s.toList)

def lower (s : String) : String := String.ofList (lowerChars s.toList)

/-- Equality of texts up to the case of ASCII letters. -/
def sameAsciiCase (s t : String) : Bool := s.toList.map Char.toLower == t.toList.map Char.toLower

@[simp]
theorem upperChars_nil : upperChars [] = [] := rfl

theorem upperChars_append (cs ds : List Char) :
    upperChars (cs ++ ds) = upperChars cs ++ upperChars ds := by
  simp [upperChars]

end MigrationAudit.Text
