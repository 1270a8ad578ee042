import MigrationAudit.Pattern.CharTable
import MigrationAudit.Text.Blank
import MigrationAudit.Text.Digit
import MigrationAudit.Text.Fold

/-!
# Sets of characters

Sets are ranges and classes of characters, put together by union, intersection and complement, and
perhaps taken up to case.  `CharSet.has` decides membership.
-/

namespace MigrationAudit.Pattern

inductive CharSet where
  | range (first last : Char)
  | digit
  | blank
  | word
  | letter
  | number
  | capital
  | small
  | either (s t : CharSet)
  | both (s t : CharSet)
  | complement (s : CharSet)
  /-- The characters that have a variant in the set. -/
  | upToCase (s : CharSet)
  deriving DecidableEq, Repr

namespace CharSet

def inRuns (runs : List (Nat × Nat)) (c : Char) : Bool :=
  runs.any fun r => r.1 ≤ c.toNat && c.toNat ≤ r.2

def inSteps (runs : List (Nat × Nat × Nat)) (c : Char) : Bool :=
  runs.any fun r => r.1 ≤ c.toNat && c.toNat ≤ r.2.1 && (c.toNat - r.1) % r.2.2 == 0

def has : CharSet → Char → Bool
  | range first last, c => first ≤ c && c ≤ last
  | digit, c => Text.isDecimalDigit c
  | blank, c => Text.isBlank c
  | word, c => inRuns wordRuns c
  | letter, c => inRuns letterRuns c
  | number, c => inRuns numberRuns c
  | capital, c => inSteps capitalRuns c
  | small, c => inSteps smallRuns c
  | either s t, c => s.has c || t.has c
  | both s t, c => s.has c && t.has c
  | complement s, c => !s.has c
  | upToCase s, c => (Text.variants c).any s.has

def single (c : Char) : CharSet := range c c

/-- No character. -/
def nothing : CharSet := range '\x01' '\x00'

def anything : CharSet := complement nothing

def ofList (sets : List CharSet) : CharSet := sets.foldr either nothing

def ofChars (cs : List Char) : CharSet := ofList (cs.map single)

def difference (s t : CharSet) : CharSet := both s (complement t)

def symmetricDifference (s t : CharSet) : CharSet := either (difference s t) (difference t s)

@[simp]
theorem has_single (c d : Char) : (single c).has d = (c ≤ d && d ≤ c) := rfl

@[simp]
theorem has_nothing (c : Char) : nothing.has c = false := by
  simp only [nothing, has, Bool.and_eq_false_iff, decide_eq_false_iff_not, Char.le_def]
  by_cases h : c.val ≤ '\x00'.val
  · exact Or.inl fun h' => absurd (UInt32.le_trans h' h) (by decide)
  · exact Or.inr h

end CharSet

end MigrationAudit.Pattern
