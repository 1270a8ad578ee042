import MigrationAudit.Check.ChangeSetForm
import MigrationAudit.Proofs.Changelog.Plain
import MigrationAudit.Proofs.Pattern.Language

/-!
# Identifiers of change sets

By the pattern that holds unless another is set, an issue is a key with a number behind a hyphen, or
a number of at most six digits, and an identifier is an issue with one more hyphen and a progressive
number.  These are the languages of the two patterns that are read from its text
(`IssuePattern.ofText_defaultText`, `IssuePattern.mem_language_defaultIssue`,
`IssuePattern.mem_language_identifier`), so they tell what is found in an identifier that is not
empty (`Check.issueId_default`).
-/

namespace MigrationAudit

/-! ## The grammar of identifiers -/

/-- A capital letter with at least three more capital letters or digits. -/
def IsKey (key : List Char) : Prop :=
  ∃ c cs, key = c :: cs ∧ c.isUpper = true ∧ 3 ≤ cs.length ∧
    ∀ d ∈ cs, d.isUpper = true ∨ d.isDigit = true

/-- Decimal digits of any script, and at least one. -/
def IsNumber (number : List Char) : Prop :=
  number ≠ [] ∧ ∀ d ∈ number, Text.isDecimalDigit d = true

inductive IsIssue : List Char → Prop
  | keyed {key number : List Char} :
    IsKey key → IsNumber number → IsIssue (key ++ '-' :: number)
  | numbered {number : List Char} : IsNumber number → number.length ≤ 6 → IsIssue number

/-- An issue and a progressive number, with a hyphen in between. -/
def IsIdentifier (id : List Char) : Prop :=
  ∃ issue progress, IsIssue issue ∧ IsNumber progress ∧ id = issue ++ '-' :: progress

namespace IssuePattern

open Pattern

/-! ## The pattern of issues -/

def hyphen : Pattern := .one (.single '-')

def number : Pattern := .repeated (.one .digit) 1 none

def capital : Pattern := .one (.ofList [.range 'A' 'Z'])

def capitalsOrDigits : Pattern :=
  .repeated (.one (.ofList [.range 'A' 'Z', .range '0' '9'])) 3 none

/-- What an identifier begins with. -/
def defaultIssue : Pattern :=
  .either (.seq capital (.seq capitalsOrDigits (.seq hyphen number)))
    (.repeated (.one .digit) 1 (some 6))

/-- The pattern that holds unless another is set. -/
def default : IssuePattern where
  beginning := .seq (.edge .textStart) defaultIssue
  whole := .seq (.edge .textStart)
    (.seq defaultIssue (.seq hyphen (.seq number (.edge .textEnd))))

theorem ofText_defaultText : ofText defaultText = .ok default := rfl

theorem edgeless_defaultIssue : defaultIssue.Edgeless := by
  simp [defaultIssue, capital, capitalsOrDigits, hyphen, number, Edgeless]

theorem isUpper_iff {c : Char} : c.isUpper = true ↔ 'A' ≤ c ∧ c ≤ 'Z' := decide_eq_true_iff

theorem has_capital {c : Char} : (CharSet.ofList [.range 'A' 'Z']).has c = true ↔
    c.isUpper = true := by
  simp [CharSet.ofList, CharSet.has, isUpper_iff]

theorem has_capitalOrDigit {c : Char} :
    (CharSet.ofList [.range 'A' 'Z', .range '0' '9']).has c = true ↔
      c.isUpper = true ∨ c.isDigit = true := by
  simp [CharSet.ofList, CharSet.has, isUpper_iff, Char.isDigit, Char.le_def]

theorem has_single_iff {c d : Char} : (CharSet.single c).has d = true ↔ d = c := by
  rw [CharSet.has_single, Bool.and_eq_true, decide_eq_true_eq, decide_eq_true_eq]
  exact ⟨fun h => Char.le_antisymm h.2 h.1, fun h => h ▸ ⟨Char.le_refl d, Char.le_refl d⟩⟩

theorem mem_mul_hyphen {l m : Language Char} {x : List Char} :
    x ∈ l * (hyphen.language * m) ↔ ∃ a ∈ l, ∃ b ∈ m, x = a ++ '-' :: b := by
  constructor
  · rintro ⟨a, ha, -, ⟨-, ⟨c, hc, rfl⟩, b, hb, rfl⟩, rfl⟩
    obtain rfl := has_single_iff.mp hc
    exact ⟨a, ha, b, hb, rfl⟩
  · rintro ⟨a, ha, b, hb, rfl⟩
    exact ⟨a, ha, '-' :: b, ⟨['-'], ⟨'-', has_single_iff.mpr rfl, rfl⟩, b, hb, rfl⟩, rfl⟩

theorem mem_language_number {x : List Char} : x ∈ number.language ↔ IsNumber x := by
  rw [number, mem_language_repeated_one, IsNumber, ← List.length_pos_iff]
  exact ⟨fun ⟨h, _, hdigits⟩ => ⟨h, hdigits⟩, fun ⟨h, hdigits⟩ => ⟨h, nofun, hdigits⟩⟩

theorem mem_language_key {x : List Char} :
    x ∈ capital.language * capitalsOrDigits.language ↔ IsKey x := by
  simp only [Language.mem_mul, capitalsOrDigits, mem_language_repeated_one, has_capitalOrDigit]
  constructor
  · rintro ⟨-, ⟨c, hc, rfl⟩, cs, ⟨hlength, -, hcs⟩, rfl⟩
    exact ⟨c, cs, rfl, has_capital.mp hc, hlength, hcs⟩
  · rintro ⟨c, cs, rfl, hc, hlength, hcs⟩
    exact ⟨[c], ⟨c, has_capital.mpr hc, rfl⟩, cs, ⟨hlength, nofun, hcs⟩, rfl⟩

theorem mem_language_defaultIssue {x : List Char} : x ∈ defaultIssue.language ↔ IsIssue x := by
  have keyed : (Pattern.seq capital (.seq capitalsOrDigits (.seq hyphen number))).language =
      capital.language * capitalsOrDigits.language * (hyphen.language * number.language) :=
    (mul_assoc _ _ _).symm
  rw [defaultIssue, language, Language.mem_add, keyed, mem_mul_hyphen, mem_language_repeated_one]
  simp only [mem_language_key, mem_language_number]
  constructor
  · rintro (⟨a, ha, b, hb, rfl⟩ | ⟨hleast, hgreatest, hdigits⟩)
    · exact .keyed ha hb
    · exact .numbered ⟨List.length_pos_iff.mp hleast, hdigits⟩ (hgreatest 6 rfl)
  · rintro (⟨ha, hb⟩ | ⟨hnumber, hlength⟩)
    · exact .inl ⟨_, ha, _, hb, rfl⟩
    · refine .inr ⟨List.length_pos_iff.mpr hnumber.1, ?_, hnumber.2⟩
      rintro m ⟨⟩
      exact hlength

theorem mem_language_identifier {x : List Char} :
    x ∈ (Pattern.seq defaultIssue (.seq hyphen number)).language ↔ IsIdentifier x := by
  simp only [language, mem_mul_hyphen, mem_language_defaultIssue, mem_language_number,
    IsIdentifier]
  constructor
  · rintro ⟨issue, hissue, progress, hprogress, h⟩
    exact ⟨issue, progress, hissue, hprogress, h⟩
  · rintro ⟨issue, progress, hissue, hprogress, h⟩
    exact ⟨issue, hissue, progress, hprogress, h⟩

/-! ## Where the patterns are found -/

theorem default_beginning_iff {id : String} : default.beginning.isFoundIn id = true ↔
    ∃ issue, IsIssue issue ∧ issue <+: id.toList := by
  simp only [default, isFoundIn_from_start_iff edgeless_defaultIssue, mem_language_defaultIssue]

theorem default_whole_iff {id : String} :
    default.whole.isFoundIn id = true ↔ IsIdentifier id.toList := by
  -- a sequence is read with its end to the right, which belongs to what follows the hyphen
  have regrouped (j : Nat) : (Pattern.seq (.seq defaultIssue (.seq hyphen number))
        (.edge .textEnd)).Matches id.toList 0 j ↔
      (Pattern.seq defaultIssue (.seq hyphen (.seq number (.edge .textEnd)))).Matches
        id.toList 0 j :=
    matches_seq_assoc.trans (exists_congr fun _ => and_congr_right fun _ => matches_seq_assoc)
  have edgeless : (Pattern.seq defaultIssue (.seq hyphen number)).Edgeless :=
    ⟨edgeless_defaultIssue, trivial, trivial⟩
  rw [default, isFoundIn_textStart_iff, ← mem_language_identifier,
    ← matches_textEnd_iff edgeless]
  exact exists_congr fun j => (regrouped j).symm

variable {pattern : IssuePattern} {id : String}

theorem cause?_eq_none_iff : pattern.cause? id = none ↔
    id = "" ∨ pattern.beginning.isFoundIn id = true ∧ pattern.whole.isFoundIn id = true := by
  unfold cause?
  split_ifs <;> simp_all

theorem cause?_eq_noProgressiveNumber_iff : pattern.cause? id = some .noProgressiveNumber ↔
    id ≠ "" ∧ pattern.beginning.isFoundIn id = true ∧ ¬ pattern.whole.isFoundIn id = true := by
  unfold cause?
  split_ifs <;> simp_all

theorem cause?_eq_noIssueInId_iff : pattern.cause? id = some .noIssueInId ↔
    id ≠ "" ∧ ¬ pattern.beginning.isFoundIn id = true := by
  unfold cause?
  split_ifs <;> simp_all

end IssuePattern

theorem IsIdentifier.begins {id : List Char} (h : IsIdentifier id) :
    ∃ issue, IsIssue issue ∧ issue <+: id := by
  obtain ⟨issue, progress, hissue, -, rfl⟩ := h
  exact ⟨issue, hissue, List.prefix_append issue _⟩

namespace Check

/-- The issues that lie in the identifier. -/
theorem filter_issueId (pattern : IssuePattern) (place : SetPlace) :
    (issueId pattern place).filter (·.field = some "id") =
      (pattern.cause? place.changeSet.id).toList.map (Issue.ofSet place (some "id")) := by
  have hid : ∀ i ∈ (pattern.cause? place.changeSet.id).toList.map (Issue.ofSet place (some "id")),
      i.field = some "id" := List.forall_mem_map.mpr fun _ _ => rfl
  have hauthor : ∀ i ∈ (causeIf (place.changeSet.author.all (· == "")) .noAuthor).toList.map
      (Issue.ofSet place (some "author")), i.field ≠ some "id" :=
    List.forall_mem_map.mpr fun _ _ => by simp [Issue.ofSet, Issue.ofChangelog]
  rw [issueId, List.filter_append, List.filter_eq_self.mpr (by simpa using hid),
    List.filter_eq_nil_iff.mpr (by simpa using hauthor), List.append_nil]

theorem map_ofSet_eq_singleton_iff {place : SetPlace} {field : Option String}
    {cause? : Option Cause} {c : Cause} :
    cause?.toList.map (Issue.ofSet place field) = [Issue.ofSet place field c] ↔
      cause? = some c := by
  cases cause? <;> simp [Issue.ofSet, Issue.ofChangelog]

/-- By the pattern that holds unless another is set, an identifier that is not empty has no issue
exactly if it is an issue with a progressive number; if it only begins with an issue, the number is
missing. -/
theorem issueId_default : ∃ pattern, IssuePattern.ofText IssuePattern.defaultText = .ok pattern ∧
    ∀ place : SetPlace,
      let id := place.changeSet.id.toList
      let found := (issueId pattern place).filter (·.field = some "id")
      (found = [] ↔ id = [] ∨ IsIdentifier id) ∧
      (found = [Issue.ofSet place (some "id") .noProgressiveNumber] ↔
        id ≠ [] ∧ ¬ IsIdentifier id ∧ ∃ issue, IsIssue issue ∧ issue <+: id) ∧
      (found = [Issue.ofSet place (some "id") .noIssueInId] ↔
        id ≠ [] ∧ ¬ ∃ issue, IsIssue issue ∧ issue <+: id) := by
  refine ⟨_, IssuePattern.ofText_defaultText, fun place => ?_⟩
  intro id found
  have hempty : id = [] ↔ place.changeSet.id = "" := String.toList_eq_nil_iff
  rw [show found = _ from filter_issueId .default place]
  refine ⟨?_, ?_, ?_⟩
  · rw [List.map_eq_nil_iff, Option.toList_eq_nil_iff, IssuePattern.cause?_eq_none_iff,
      IssuePattern.default_beginning_iff, IssuePattern.default_whole_iff, hempty]
    exact or_congr_right (and_iff_right_of_imp IsIdentifier.begins)
  · rw [map_ofSet_eq_singleton_iff, IssuePattern.cause?_eq_noProgressiveNumber_iff,
      IssuePattern.default_beginning_iff, IssuePattern.default_whole_iff, ne_eq, ne_eq, hempty]
    exact and_congr_right fun _ => and_comm
  · rw [map_ofSet_eq_singleton_iff, IssuePattern.cause?_eq_noIssueInId_iff,
      IssuePattern.default_beginning_iff, ne_eq, ne_eq, hempty]

/-- There is no issue in an empty identifier, and nothing is found. -/
theorem issueId_default_of_empty :
    ∃ pattern, IssuePattern.ofText IssuePattern.defaultText = .ok pattern ∧
      let place := SetPlace.ofChanges []
      place.changeSet.id = "" ∧ ¬ IsIdentifier place.changeSet.id.toList ∧
        (issueId pattern place).filter (·.field = some "id") = [] := by
  refine ⟨_, IssuePattern.ofText_defaultText, rfl, ?_, rfl⟩
  rintro ⟨issue, progress, -, -, h⟩
  exact List.append_ne_nil_of_right_ne_nil issue (List.cons_ne_nil '-' progress) h.symm

end Check

end MigrationAudit
