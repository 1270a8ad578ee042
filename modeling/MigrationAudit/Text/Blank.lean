/-!
# Blank characters and trimming

A character is blank when it has the Unicode property White_Space.  Trimming takes the blanks off
both ends, so nothing is left exactly when every character is blank (`trimChars_eq_nil_iff`).
-/

namespace MigrationAudit.Text

/-- The characters with the Unicode property White_Space. -/
def isBlank (c : Char) : Bool :=
  (0x9 ≤ c.toNat && c.toNat ≤ 0xd) || c.toNat == 0x20 || c.toNat == 0x85 || c.toNat == 0xa0 ||
    c.toNat == 0x1680 || (0x2000 ≤ c.toNat && c.toNat ≤ 0x200a) || c.toNat == 0x2028 ||
    c.toNat == 0x2029 || c.toNat == 0x202f || c.toNat == 0x205f || c.toNat == 0x3000

def dropLeadingBlank (cs : List Char) : List Char := cs.dropWhile isBlank

def dropTrailingBlank (cs : List Char) : List Char := (cs.reverse.dropWhile isBlank).reverse

/-- Blanks are taken off both ends. -/
def trimChars (cs : List Char) : List Char := dropTrailingBlank (dropLeadingBlank cs)

def trim (s : String) : String := String.ofList (trimChars s.toList)

/-- A text in which every character is blank. -/
def isBlankText (s : String) : Bool := s.toList.all isBlank

/-- An absent value is as blank as an empty one. -/
def isBlankValue : Option String → Bool
  | none => true
  | some s => isBlankText s

theorem dropWhile_eq_nil_iff_all (p : Char → Bool) (cs : List Char) :
    cs.dropWhile p = [] ↔ ∀ c ∈ cs, p c = true := by
  induction cs with
  | nil => simp
  | cons c cs ih =>
    by_cases h : p c = true
    · simp [h, ih]
    · simp [h]

theorem all_blank_of_dropWhile {cs : List Char}
    (h : ∀ c ∈ cs.dropWhile isBlank, isBlank c = true) : ∀ c ∈ cs, isBlank c = true := by
  induction cs with
  | nil => simp
  | cons c cs ih =>
    by_cases hc : isBlank c = true
    · simp only [List.dropWhile_cons, hc, if_true] at h
      intro d hd
      rcases List.mem_cons.mp hd with rfl | hd
      · exact hc
      · exact ih h d hd
    · simp [hc] at h

/-- Trimming leaves nothing exactly when there is nothing but blanks. -/
theorem trimChars_eq_nil_iff (cs : List Char) :
    trimChars cs = [] ↔ ∀ c ∈ cs, isBlank c = true := by
  simp only [trimChars, dropTrailingBlank, dropLeadingBlank, List.reverse_eq_nil_iff,
    dropWhile_eq_nil_iff_all, List.mem_reverse]
  exact ⟨all_blank_of_dropWhile, fun h c hc => h c ((List.dropWhile_sublist _).subset hc)⟩

end MigrationAudit.Text
