import Mathlib.Tactic.FinCases
import MigrationAudit.Proofs.Text.Order
import MigrationAudit.Proofs.Text.Pieces
import MigrationAudit.Settings.Limits

/-!
# What parameters make of limits

A parameter is at fault if its address names no check or no setting, or if it belongs to a limit
that is a number and its value is none (`Limits.Fault`); applying it fails with just that fault
(`Limits.set_eq_error_iff`), and else sets its own limit and no other one (`Limits.sets_of_set`).
So parameters do not get in each other's way: together they set each limit that has a parameter,
unless some of them are at fault, and then the first one of these is reported
(`Limits.withParameters_pointwise`).
-/

namespace MigrationAudit

/-! ## Numbers as they are written -/

namespace Text

/-- ASCII digits, perhaps behind a plus sign, that denote a number of 64 bits. -/
def IsWord (cs : List Char) (n : Nat) : Prop :=
  ∃ digits, (cs = digits ∨ cs = '+' :: digits) ∧ digits ≠ [] ∧ (∀ c ∈ digits, c.isDigit = true) ∧
    decimalValue digits = n ∧ n ≤ maxWord

theorem wordOfDigits?_eq_some_iff {cs : List Char} {n : Nat} : wordOfDigits? cs = some n ↔
    cs ≠ [] ∧ (∀ c ∈ cs, c.isDigit = true) ∧ decimalValue cs = n ∧ n ≤ maxWord := by
  unfold wordOfDigits?
  split_ifs with hcs hle
  · refine iff_of_false nofun ?_
    rintro ⟨hne, hdigits, -⟩
    rcases Bool.or_eq_true_iff.mp hcs with h | h
    · exact hne (List.isEmpty_iff.mp h)
    · obtain ⟨c, hc, hdigit⟩ := List.any_eq_true.mp h
      simp [hdigits c hc] at hdigit
  all_goals
    have hcs : cs ≠ [] ∧ ∀ c ∈ cs, c.isDigit = true := by simpa using hcs
  · rw [Option.some.injEq]
    exact ⟨fun h => ⟨hcs.1, hcs.2, h, h ▸ hle⟩, fun h => h.2.2.1⟩
  · exact iff_of_false nofun fun h => hle (h.2.2.1 ▸ h.2.2.2)

theorem word?_eq_some_iff {s : String} {n : Nat} : word? s = some n ↔ IsWord s.toList n := by
  unfold word? wordOfChars? IsWord
  split
  · next digits hs =>
    rw [hs, wordOfDigits?_eq_some_iff]
    refine ⟨fun h => ⟨digits, .inr rfl, h⟩, ?_⟩
    rintro ⟨digits', rfl | h, hword⟩
    · exact absurd (hword.2.1 '+' List.mem_cons_self) (by decide)
    · obtain rfl := (List.cons.inj h).2
      exact hword
  · next hs =>
    rw [wordOfDigits?_eq_some_iff]
    refine ⟨fun h => ⟨_, .inl rfl, h⟩, ?_⟩
    rintro ⟨digits, rfl | h, hword⟩
    · exact hword
    · exact absurd h (hs digits)

end Text

namespace Limits

open Text

/-! ## Addresses -/

/-- Something stands before the first point of the address, and something behind it. -/
def Addressed (address : String) : Prop :=
  ∃ check setting, '.' ∉ check.toList ∧ address = check ++ "." ++ setting ∧ check ≠ "" ∧
    setting ≠ ""

theorem splitAddress?_eq_some_iff {address check setting : String} :
    splitAddress? address = some (check, setting) ↔
      '.' ∉ check.toList ∧ address = check ++ "." ++ setting ∧ check ≠ "" ∧ setting ≠ "" := by
  have haddress : address = check ++ "." ++ setting ↔
      address.toList = check.toList ++ '.' :: setting.toList := by
    rw [← String.toList_inj]
    simp
  have hempty : ∀ s : String, s ≠ "" ↔ s.toList ≠ [] := fun s =>
    not_congr String.toList_eq_nil_iff.symm
  rw [haddress, hempty, hempty, ← and_assoc, ← splitAtFirst?_eq_some_iff]
  unfold splitAddress?
  split
  · next cs ss hsplit =>
    rw [hsplit]
    split_ifs with hparts
    · refine iff_of_false nofun ?_
      rintro ⟨⟨⟩, hcheck, hsetting⟩
      exact hparts.elim hcheck hsetting
    · constructor
      · rintro ⟨⟩
        simpa using hparts
      · rintro ⟨⟨⟩, -⟩
        simp
  · next hsplit => simp [hsplit]

theorem splitAddress?_eq_none_iff {address : String} :
    splitAddress? address = none ↔ ¬ Addressed address := by
  simp only [Option.eq_none_iff_forall_ne_some, Prod.forall, ne_eq, splitAddress?_eq_some_iff,
    Addressed, not_exists]

/-! ## Limits that are numbers -/

/-- A limit that is a number: the check and the setting that its parameter is addressed to, and how
it is read and written. -/
structure NumberLimit where
  check : String
  setting : String
  get : Limits → Nat
  put : Nat → Limits → Limits

def NumberLimit.address (p : NumberLimit) : String := p.check ++ "." ++ p.setting

def numbers : List NumberLimit :=
  [⟨"columns", "minLength", minNameLength, fun n l => { l with minNameLength := n }⟩,
   ⟨"columns", "maxLength", maxNameLength, fun n l => { l with maxNameLength := n }⟩,
   ⟨"columns", "maxPrecision", columnMaxPrecision, fun n l => { l with columnMaxPrecision := n }⟩,
   ⟨"range", "maxLength", sequenceNameMaxLength,
     fun n l => { l with sequenceNameMaxLength := n }⟩,
   ⟨"numericType", "maxPrecision", numericMaxPrecision,
     fun n l => { l with numericMaxPrecision := n }⟩,
   ⟨"tableSize", "rowSizeLimit", rowSizeLimit, fun n l => { l with rowSizeLimit := n }⟩,
   ⟨"createIndex", "maxKeyLength", indexKeyLimit, fun n l => { l with indexKeyLimit := n }⟩,
   ⟨"oracleLength", "maxLength", oracleIdentifierLength,
     fun n l => { l with oracleIdentifierLength := n }⟩,
   ⟨"oracleCLOB", "maxLength", oracleVarcharLength,
     fun n l => { l with oracleVarcharLength := n }⟩]

theorem get_put (l : Limits) (n : Nat) : ∀ p ∈ numbers, ∀ q ∈ numbers,
    q.get (p.put n l) = if q.address = p.address then n else q.get l := by
  intro p hp q hq
  fin_cases hp <;> fin_cases hq <;> rfl

theorem texts_put (l : Limits) (n : Nat) : ∀ p ∈ numbers,
    (p.put n l).sequenceStep = l.sequenceStep ∧ (p.put n l).filePathSuffix = l.filePathSuffix := by
  intro p hp
  fin_cases hp <;> exact ⟨rfl, rfl⟩

/-- The numbers and the two texts are all there is to limits. -/
theorem eq_of_numbers {l m : Limits} (hnumbers : ∀ p ∈ numbers, p.get l = p.get m)
    (hstep : l.sequenceStep = m.sequenceStep) (hsuffix : l.filePathSuffix = m.filePathSuffix) :
    l = m := by
  obtain ⟨_, _, _, _, _, _, _, _, _, _, _⟩ := l
  obtain ⟨_, _, _, _, _, _, _, _, _, _, _⟩ := m
  simp_all [numbers]

/-- The addresses of limits that are texts. -/
def textAddresses : List String := ["sequence.expected", "filePath.suffix"]

theorem number_ne_text : ∀ p ∈ numbers, ∀ a ∈ textAddresses, a ≠ p.address := by
  decide

theorem splitAddress?_number : ∀ p ∈ numbers,
    splitAddress? p.address = some (p.check, p.setting) := by
  intro p hp
  rw [splitAddress?_eq_some_iff]
  fin_cases hp <;> exact ⟨by decide, rfl, by decide, by decide⟩

/-! ## One parameter -/

/-- What is wrong with a parameter. -/
inductive Fault : String → String → Failure → Prop
  | unaddressed {address value : String} : ¬ Addressed address →
    Fault address value (.missingValidatorName address)
  | malformed {p : NumberLimit} {value : String} : p ∈ numbers →
    (∀ n, ¬ IsWord (trim value).toList n) → Fault p.address value (.invalidLimit p.address value)

/-- Each limit is as it is given by address, and as it was before if it is not given. -/
structure Sets (l : Limits) (given : String → Option String) (l' : Limits) : Prop where
  number : ∀ p ∈ numbers, ∀ value, given p.address = some value →
    IsWord (trim value).toList (p.get l')
  kept : ∀ p ∈ numbers, given p.address = none → p.get l' = p.get l
  sequenceStep : l'.sequenceStep = (given "sequence.expected").getD l.sequenceStep
  filePathSuffix : l'.filePathSuffix = (given "filePath.suffix").or l.filePathSuffix

/-- A single value by its address. -/
def single (address value : String) : String → Option String :=
  fun a => if a = address then some value else none

theorem single_of_ne {a address : String} (h : a ≠ address) (value : String) :
    single address value a = none := if_neg h

section OneParameter

variable (l : Limits) {address : String} (value : String)

theorem number_eq_ok_iff {value : String} {n : Nat} :
    number address value = .ok n ↔ IsWord (trim value).toList n := by
  rw [← word?_eq_some_iff, number]
  cases word? (trim value) <;> simp

theorem number_eq_error_iff {value : String} {failure : Failure} :
    number address value = .error failure ↔
      (∀ n, ¬ IsWord (trim value).toList n) ∧ failure = .invalidLimit address value := by
  simp only [← word?_eq_some_iff]
  unfold number
  cases word? (trim value) <;> simp [eq_comm]

theorem set_unaddressed (h : ¬ Addressed address) :
    l.set address value = .error (.missingValidatorName address) := by
  rw [set, splitAddress?_eq_none_iff.mpr h]

theorem set_number : ∀ p ∈ numbers,
    l.set p.address value = (number p.address value).map fun n => p.put n l := by
  intro p hp
  rw [set, splitAddress?_number p hp]
  cases number p.address value with
  | ok n => fin_cases hp <;> rfl
  | error failure => fin_cases hp <;> rfl

theorem set_sequenceStep :
    l.set "sequence.expected" value = .ok { l with sequenceStep := value } := by
  have hsplit : splitAddress? "sequence.expected" = some ("sequence", "expected") := rfl
  rw [set, hsplit]
  rfl

theorem set_filePathSuffix :
    l.set "filePath.suffix" value = .ok { l with filePathSuffix := some value } := by
  have hsplit : splitAddress? "filePath.suffix" = some ("filePath", "suffix") := rfl
  rw [set, hsplit]
  rfl

theorem set_elsewhere (h : Addressed address)
    (hknown : address ∉ numbers.map NumberLimit.address ++ textAddresses) :
    l.set address value = .ok l := by
  unfold set
  split
  case h_1 hsplit => exact absurd h (splitAddress?_eq_none_iff.mp hsplit)
  case h_13 => rfl
  all_goals
    next hsplit =>
      have haddress := (splitAddress?_eq_some_iff.mp hsplit).2.1
      exact absurd (by rw [haddress]; decide) hknown

theorem sets_put {p : NumberLimit} (hp : p ∈ numbers) {value : String} {n : Nat}
    (h : IsWord (trim value).toList n) : Sets l (single p.address value) (p.put n l) := by
  obtain ⟨hstep, hsuffix⟩ := texts_put l n p hp
  have htext : ∀ a ∈ textAddresses, single p.address value a = none := fun a ha =>
    single_of_ne (number_ne_text p hp a ha) value
  refine ⟨fun q hq v hv => ?_, fun q hq hv => ?_, ?_, ?_⟩
  · rw [get_put l n p hp q hq]
    unfold single at hv
    split_ifs at hv ⊢
    exact Option.some.inj hv ▸ h
  · rw [get_put l n p hp q hq]
    unfold single at hv
    split_ifs at hv ⊢
    rfl
  · rw [hstep, htext _ (by decide), Option.getD_none]
  · rw [hsuffix, htext _ (by decide), Option.none_or]

/-- Where no number is given, all numbers are kept. -/
theorem sets_texts {l l' : Limits} {given : String → Option String}
    (hnone : ∀ p ∈ numbers, given p.address = none) (hkept : ∀ p ∈ numbers, p.get l' = p.get l)
    (hstep : l'.sequenceStep = (given "sequence.expected").getD l.sequenceStep)
    (hsuffix : l'.filePathSuffix = (given "filePath.suffix").or l.filePathSuffix) :
    Sets l given l' :=
  ⟨fun p hp value hv => by simp [hnone p hp] at hv, fun p hp _ => hkept p hp, hstep, hsuffix⟩

theorem exists_set_text (h : address ∈ textAddresses) :
    ∃ l', l.set address value = .ok l' ∧ Sets l (single address value) l' := by
  have hnone : ∀ p ∈ numbers, single address value p.address = none := fun p hp =>
    single_of_ne (number_ne_text p hp address h).symm value
  rcases List.mem_pair.mp h with rfl | rfl
  · exact ⟨_, set_sequenceStep l value, sets_texts hnone (by simp [numbers]) rfl rfl⟩
  · exact ⟨_, set_filePathSuffix l value, sets_texts hnone (by simp [numbers]) rfl rfl⟩

/-- A parameter is at fault, or it sets its limit and no other one. -/
theorem set_cases (address : String) :
    (∃ failure, l.set address value = .error failure ∧ Fault address value failure) ∨
      ∃ l', l.set address value = .ok l' ∧ Sets l (single address value) l' := by
  by_cases h : Addressed address
  · by_cases hknown : address ∈ numbers.map NumberLimit.address ++ textAddresses
    · rcases List.mem_append.mp hknown with hnumber | htext
      · obtain ⟨p, hp, rfl⟩ := List.mem_map.mp hnumber
        rw [set_number l value p hp]
        cases hn : number p.address value with
        | ok n => exact .inr ⟨_, rfl, sets_put l hp (number_eq_ok_iff.mp hn)⟩
        | error failure =>
          obtain ⟨hword, rfl⟩ := number_eq_error_iff.mp hn
          exact .inl ⟨_, rfl, .malformed hp hword⟩
      · exact .inr (exists_set_text l value htext)
    · have hnone : ∀ a ∈ numbers.map NumberLimit.address ++ textAddresses,
          single address value a = none := fun a ha =>
        single_of_ne (fun heq : a = address => hknown (heq ▸ ha)) value
      refine .inr ⟨l, set_elsewhere l value h hknown, sets_texts (fun p hp => ?_)
        (fun _ _ => rfl) ?_ ?_⟩
      · exact hnone _ (List.mem_append_left _ (List.mem_map_of_mem hp))
      · rw [hnone _ (by decide), Option.getD_none]
      · rw [hnone _ (by decide), Option.none_or]
  · exact .inl ⟨_, set_unaddressed l value h, .unaddressed h⟩

theorem set_eq_error_iff {l : Limits} {value : String} {failure : Failure} :
    l.set address value = .error failure ↔ Fault address value failure := by
  constructor
  · intro h
    rcases set_cases l value address with ⟨failure', hset, hfault⟩ | ⟨l', hset, -⟩
    · obtain rfl := Except.error.inj (h.symm.trans hset)
      exact hfault
    · cases h.symm.trans hset
  · rintro (hun | ⟨hp, hword⟩)
    · exact set_unaddressed l value hun
    · rw [set_number l value _ hp, number_eq_error_iff.mpr ⟨hword, rfl⟩]
      rfl

theorem sets_of_set {l l' : Limits} {value : String} (h : l.set address value = .ok l') :
    Sets l (single address value) l' := by
  rcases set_cases l value address with ⟨failure, hset, -⟩ | ⟨l'', hset, hsets⟩
  · cases h.symm.trans hset
  · obtain rfl := Except.ok.inj (h.symm.trans hset)
    exact hsets

end OneParameter

/-! ## Parameters one after the other -/

section Given

variable {l l₁ l₂ : Limits} {given given' : String → Option String}

theorem Sets.trans (h : Sets l given l₁) (h' : Sets l₁ given' l₂) :
    Sets l (fun a => (given' a).or (given a)) l₂ := by
  refine ⟨fun p hp value hv => ?_, fun p hp hv => ?_, ?_, ?_⟩
  · rcases Option.or_eq_some_iff.mp hv with hv | ⟨hnone, hv⟩
    · exact h'.number p hp value hv
    · rw [h'.kept p hp hnone]
      exact h.number p hp value hv
  · obtain ⟨hnone', hnone⟩ := Option.or_eq_none_iff.mp hv
    rw [h'.kept p hp hnone', h.kept p hp hnone]
  · rw [h'.sequenceStep, h.sequenceStep, Option.getD_or]
  · rw [h'.filePathSuffix, h.filePathSuffix, Option.or_assoc]

/-- What is given tells the limits. -/
theorem Sets.unique (h₁ : Sets l given l₁) (h₂ : Sets l given l₂) : l₁ = l₂ := by
  refine eq_of_numbers (fun p hp => ?_) ?_ ?_
  · cases hv : given p.address with
    | none => rw [h₁.kept p hp hv, h₂.kept p hp hv]
    | some value =>
      exact Option.some.inj ((word?_eq_some_iff.mpr (h₁.number p hp value hv)).symm.trans
        (word?_eq_some_iff.mpr (h₂.number p hp value hv)))
  · rw [h₁.sequenceStep, h₂.sequenceStep]
  · rw [h₁.filePathSuffix, h₂.filePathSuffix]

end Given

section Run

variable {ps : Parameters}

/-- The value that is applied for an address. -/
def applied (ps : Parameters) (address : String) : String := (ps.value? address).getD ""

theorem setAll_cons (ps : Parameters) (l : Limits) (address : String) (rest : List String) :
    setAll ps l (address :: rest) =
      (l.set address (applied ps address)).bind fun l => setAll ps l rest := rfl

/-- Of addresses in order, the first one at fault is reported. -/
theorem setAll_eq_error_iff {failure : Failure} : ∀ {addresses : List String} {l : Limits},
    addresses.Pairwise (· < ·) → (setAll ps l addresses = .error failure ↔
      ∃ a ∈ addresses, Fault a (applied ps a) failure ∧
        ∀ b ∈ addresses, ∀ failure', Fault b (applied ps b) failure' → a ≤ b)
  | [], l, _ => by simp [setAll]
  | a :: rest, l, sorted => by
    obtain ⟨ha, sorted⟩ := List.pairwise_cons.mp sorted
    rw [setAll_cons]
    rcases set_cases l (applied ps a) a with ⟨failure', hset, hfault⟩ | ⟨l', hset, -⟩
    · rw [hset]
      constructor
      · rintro ⟨⟩
        refine ⟨a, List.mem_cons_self, hfault, fun b hb _ _ => ?_⟩
        rcases List.mem_cons.mp hb with rfl | hb
        · exact le_rfl
        · exact (ha b hb).le
      · rintro ⟨b, hb, hfailure, hleast⟩
        have hba : b ≤ a := hleast a List.mem_cons_self failure' hfault
        rcases List.mem_cons.mp hb with rfl | hb
        · exact hset.symm.trans (set_eq_error_iff.mpr hfailure)
        · exact absurd (ha b hb) hba.not_gt
    · have hfree : ∀ failure', ¬ Fault a (applied ps a) failure' := fun failure' hfault => by
        cases hset.symm.trans (set_eq_error_iff.mpr hfault)
      rw [hset]
      refine (setAll_eq_error_iff (l := l') sorted).trans ?_
      constructor
      · rintro ⟨b, hb, hfault, hleast⟩
        refine ⟨b, List.mem_cons_of_mem a hb, hfault, fun c hc failure' hc' => ?_⟩
        rcases List.mem_cons.mp hc with rfl | hc
        · exact absurd hc' (hfree failure')
        · exact hleast c hc failure' hc'
      · rintro ⟨b, hb, hfault, hleast⟩
        rcases List.mem_cons.mp hb with rfl | hb
        · exact absurd hfault (hfree failure)
        · exact ⟨b, hb, hfault, fun c hc => hleast c (List.mem_cons_of_mem a hc)⟩

theorem not_fault_of_setAll : ∀ {addresses : List String} {l l' : Limits},
    setAll ps l addresses = .ok l' →
      ∀ a ∈ addresses, ∀ failure, ¬ Fault a (applied ps a) failure
  | [], _, _, _ => by simp
  | a :: rest, l, l', h => by
    rw [setAll_cons] at h
    cases hset : l.set a (applied ps a) with
    | error failure =>
      rw [hset] at h
      cases h
    | ok l₁ =>
      rw [hset] at h
      refine List.forall_mem_cons.mpr ⟨fun failure hfault => ?_, not_fault_of_setAll h⟩
      cases hset.symm.trans (set_eq_error_iff.mpr hfault)

theorem sets_of_setAll : ∀ {addresses : List String} {l l' : Limits},
    setAll ps l addresses = .ok l' →
      Sets l (fun a => if a ∈ addresses then some (applied ps a) else none) l'
  | [], l, l', h => by
    obtain rfl := Except.ok.inj h
    exact sets_texts (fun _ _ => rfl) (fun _ _ => rfl) rfl rfl
  | a :: rest, l, l', h => by
    rw [setAll_cons] at h
    cases hset : l.set a (applied ps a) with
    | error failure =>
      rw [hset] at h
      cases h
    | ok l₁ =>
      rw [hset] at h
      have both := (sets_of_set hset).trans (sets_of_setAll h)
      refine cast (congrArg (Sets l · l') (funext fun b => ?_)) both
      by_cases hb : b ∈ rest
      · simp [hb]
      · by_cases hba : b = a
        · subst hba
          simp [hb, single]
        · simp [hb, hba, single]

theorem mem_addresses_iff {address : String} :
    address ∈ ps.addresses ↔ ∃ value, ps.value? address = some value := by
  rw [← Option.isSome_iff_exists, Parameters.value?, Option.isSome_map, List.find?_isSome,
    Parameters.addresses, mem_ordered_iff, List.mem_map]
  simp

theorem value?_of_mem {address : String} (h : address ∈ ps.addresses) :
    ps.value? address = some (applied ps address) := by
  obtain ⟨value, hvalue⟩ := mem_addresses_iff.mp h
  rw [applied, hvalue, Option.getD_some]

theorem given_eq_value? (ps : Parameters) :
    (fun a => if a ∈ ps.addresses then some (applied ps a) else none) = ps.value? := by
  funext a
  split_ifs with ha
  · exact (value?_of_mem ha).symm
  · rw [mem_addresses_iff, not_exists] at ha
    exact (Option.eq_none_iff_forall_ne_some.mpr ha).symm

theorem withParameters_eq_error_iff {l : Limits} {failure : Failure} :
    l.withParameters ps = .error failure ↔
      ∃ a value, ps.value? a = some value ∧ Fault a value failure ∧
        ∀ b value' failure', ps.value? b = some value' → Fault b value' failure' → a ≤ b := by
  have sorted : ps.addresses.Pairwise (· < ·) := pairwise_ordered _
  rw [withParameters, setAll_eq_error_iff sorted]
  constructor
  · rintro ⟨a, ha, hfault, hleast⟩
    refine ⟨a, _, value?_of_mem ha, hfault, fun b value' failure' hb hfault' => ?_⟩
    have hmem := mem_addresses_iff.mpr ⟨value', hb⟩
    obtain rfl := Option.some.inj ((value?_of_mem hmem).symm.trans hb)
    exact hleast b hmem failure' hfault'
  · rintro ⟨a, value, ha, hfault, hleast⟩
    have hmem := mem_addresses_iff.mpr ⟨value, ha⟩
    obtain rfl := Option.some.inj ((value?_of_mem hmem).symm.trans ha)
    exact ⟨a, hmem, hfault, fun b hb failure' => hleast b _ failure' (value?_of_mem hb)⟩

theorem sets_of_withParameters {l l' : Limits} (h : l.withParameters ps = .ok l') :
    Sets l ps.value? l' := given_eq_value? ps ▸ sets_of_setAll h

theorem not_fault_of_withParameters {l l' : Limits} (h : l.withParameters ps = .ok l')
    {a value : String} {failure : Failure} (hvalue : ps.value? a = some value) :
    ¬ Fault a value failure := by
  have hmem := mem_addresses_iff.mpr ⟨value, hvalue⟩
  obtain rfl := Option.some.inj ((value?_of_mem hmem).symm.trans hvalue)
  exact not_fault_of_setAll h a hmem failure

/-- Applying parameters fails exactly if some of them are at fault, with the fault of the one whose
address is the first in order.  Else each limit is what its own parameter says, a number as it is
read and a text as it stands, and without a parameter it stays as it was. -/
theorem withParameters_pointwise (l : Limits) (ps : Parameters) :
    ((∃ failure, l.withParameters ps = .error failure) ↔
      ∃ a value failure, ps.value? a = some value ∧ Fault a value failure) ∧
    (∀ failure, l.withParameters ps = .error failure ↔
      ∃ a value, ps.value? a = some value ∧ Fault a value failure ∧
        ∀ b value' failure', ps.value? b = some value' → Fault b value' failure' → a ≤ b) ∧
    ∀ l', l.withParameters ps = .ok l' ↔
      (∀ a value failure, ps.value? a = some value → ¬ Fault a value failure) ∧
        Sets l ps.value? l' := by
  refine ⟨⟨?_, ?_⟩, fun failure => withParameters_eq_error_iff, fun l' => ⟨fun h => ?_, ?_⟩⟩
  · rintro ⟨failure, h⟩
    obtain ⟨a, value, hvalue, hfault, -⟩ := withParameters_eq_error_iff.mp h
    exact ⟨a, value, failure, hvalue, hfault⟩
  · rintro ⟨a, value, failure, hvalue, hfault⟩
    cases h : l.withParameters ps with
    | error failure' => exact ⟨failure', rfl⟩
    | ok l' => exact absurd hfault (not_fault_of_withParameters h hvalue)
  · exact ⟨fun a value failure hvalue => not_fault_of_withParameters h hvalue,
      sets_of_withParameters h⟩
  · rintro ⟨hfree, hsets⟩
    cases h : l.withParameters ps with
    | error failure =>
      obtain ⟨a, value, hvalue, hfault, -⟩ := withParameters_eq_error_iff.mp h
      exact absurd hfault (hfree a value failure hvalue)
    | ok l'' => rw [(sets_of_withParameters h).unique hsets]

end Run

end Limits

end MigrationAudit
