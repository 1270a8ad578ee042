import MigrationAudit.Text.Blank

/-!
# Pieces of a text

A text is cut at every separator, which gives one piece at least (`pieces_ne_nil`).  A list of names
is cut at commas; its names are the pieces without their blank edges, the empty ones left out.  The
length of a text is counted in UTF-16 units.
-/

namespace MigrationAudit.Text

/-- The stretches of a text between separators. -/
def pieces (separator : Char) : List Char → List (List Char)
  | [] => [[]]
  | c :: cs =>
    if c = separator then [] :: pieces separator cs
    else
      match pieces separator cs with
      | [] => [[c]]
      | p :: ps => (c :: p) :: ps

/-- The names in a list written with commas. -/
def names (s : String) : List String :=
  ((pieces ',' s.toList).map fun p => String.ofList (trimChars p)).filter (· ≠ "")

/-- What stands before the first comma, or everything. -/
def beforeComma (s : String) : String := String.ofList (s.toList.takeWhile (· ≠ ','))

/-- The UTF-16 units of a character. -/
def unitsOfChar (c : Char) : Nat := if c.toNat < 0x10000 then 1 else 2

/-- The length of a text in UTF-16 units. -/
def units (s : String) : Nat := s.toList.foldr (fun c n => unitsOfChar c + n) 0

/-- The parts before and after the first separator. -/
def splitAtFirst? (separator : Char) (cs : List Char) : Option (List Char × List Char) :=
  match cs.dropWhile (· ≠ separator) with
  | [] => none
  | _ :: rest => some (cs.takeWhile (· ≠ separator), rest)

def joinWith (separator : String) : List String → String
  | [] => ""
  | [s] => s
  | s :: t :: rest => s ++ separator ++ joinWith separator (t :: rest)

theorem splitAtFirst?_eq_none_iff (separator : Char) (cs : List Char) :
    splitAtFirst? separator cs = none ↔ separator ∉ cs := by
  have h := dropWhile_eq_nil_iff_all (· ≠ separator) cs
  unfold splitAtFirst?
  constructor
  · intro hn hs
    split at hn
    · next hd => simpa using h.mp hd separator hs
    · simp at hn
  · intro hs
    rw [h.mpr fun c hc => by simpa using fun hcs : c = separator => hs (hcs ▸ hc)]

theorem length_of_splitAtFirst? {separator : Char} {cs : List Char} {p : List Char × List Char}
    (h : splitAtFirst? separator cs = some p) : p.2.length < cs.length := by
  have hd : (cs.dropWhile (· ≠ separator)).length ≤ cs.length :=
    (List.dropWhile_sublist _).length_le
  unfold splitAtFirst? at h
  split at h
  · simp at h
  · next c rest hr =>
    obtain rfl := Option.some.inj h
    rw [hr, List.length_cons] at hd
    exact hd

theorem pieces_ne_nil (separator : Char) (cs : List Char) : pieces separator cs ≠ [] := by
  cases cs with
  | nil => simp [pieces]
  | cons c cs =>
    unfold pieces
    split
    · simp
    · split <;> simp

end MigrationAudit.Text
