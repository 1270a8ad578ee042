import MigrationAudit.Proofs.Declaration.Parts
import MigrationAudit.Rule.Basic

/-!
# Which texts the rule on standard types accepts

A declaration is meant to be a fixed name, or a parametric name with or without a parameter behind
it (`StandardType.Grammatical`).  The base of a declaration, however, is what stands around its
parameter, so the rule accepts a parametric name as well that the parameter interrupts or precedes
(`StandardType.Interrupted`), and nothing else (`StandardType.accepts_iff`).
-/

namespace MigrationAudit

namespace Text

/-! ## Blanks at the edges -/

def AllBlank (cs : List Char) : Prop := ∀ c ∈ cs, isBlank c = true

theorem exists_blanks_trimChars (cs : List Char) :
    ∃ left right, AllBlank left ∧ AllBlank right ∧ cs = left ++ (trimChars cs ++ right) := by
  let left := cs.takeWhile isBlank
  let right := (dropLeadingBlank cs).reverse.takeWhile isBlank
  have trailing : dropLeadingBlank cs = trimChars cs ++ right.reverse := by
    rw [trimChars, dropTrailingBlank, ← List.reverse_append, List.takeWhile_append_dropWhile,
      List.reverse_reverse]
  refine ⟨left, right.reverse, fun c hc => List.mem_takeWhile_imp hc, fun c hc => ?_, ?_⟩
  · exact List.mem_takeWhile_imp (List.mem_reverse.mp hc)
  · calc cs = left ++ dropLeadingBlank cs := List.takeWhile_append_dropWhile.symm
      _ = left ++ (trimChars cs ++ right.reverse) := by rw [trailing]

theorem trimChars_append_allBlank (cs : List Char) {blanks : List Char} (h : AllBlank blanks) :
    trimChars (cs ++ blanks) = trimChars cs := by
  induction blanks using List.reverseRecOn with
  | nil => rw [List.append_nil]
  | append_singleton blanks c ih =>
    rw [← List.append_assoc, trimChars_append_of_isBlank _ (h c (by simp))]
    exact ih fun d hd => h d (List.mem_append_left [c] hd)

theorem trimChars_allBlank_append (cs : List Char) : ∀ {blanks : List Char}, AllBlank blanks →
    trimChars (blanks ++ cs) = trimChars cs
  | [], _ => rfl
  | c :: blanks, h => by
    rw [List.cons_append, trimChars_cons_of_isBlank (h c List.mem_cons_self)]
    exact trimChars_allBlank_append cs fun d hd => h d (List.mem_cons_of_mem c hd)

theorem length_trimChars_le (cs : List Char) : (trimChars cs).length ≤ cs.length := by
  obtain ⟨left, right, -, -, hcs⟩ := exists_blanks_trimChars cs
  have hlen := congrArg List.length hcs
  simp only [List.length_append] at hlen
  omega

/-- A trimmed text does not begin with a blank, so what begins like it does not either. -/
theorem eq_nil_of_trimmed_cons {c : Char} {cs blanks : List Char} {x y : List Char}
    (ht : trimChars (c :: cs) = c :: cs) (hb : AllBlank blanks) (h : c :: x = blanks ++ y) :
    blanks = [] := by
  cases blanks with
  | nil => rfl
  | cons d blanks =>
    obtain rfl : c = d := (List.cons.inj h).1
    rw [trimChars_cons_of_isBlank (hb c List.mem_cons_self)] at ht
    have hlen := congrArg List.length ht
    have hle := length_trimChars_le cs
    simp only [List.length_cons] at hlen
    omega

/-- A trimmed text does not end in a blank, so what ends like it does not either. -/
theorem eq_nil_of_trimmed_append {c : Char} {cs blanks : List Char} {x y : List Char}
    (ht : trimChars (cs ++ [c]) = cs ++ [c]) (hb : AllBlank blanks) (h : x ++ [c] = y ++ blanks) :
    blanks = [] := by
  rcases List.eq_nil_or_concat blanks with rfl | ⟨blanks, d, rfl⟩
  · rfl
  · rw [List.concat_eq_append, ← List.append_assoc] at h
    obtain rfl : c = d := List.singleton_inj.mp (List.append_inj_right' h rfl)
    rw [trimChars_append_of_isBlank cs (hb c (by simp))] at ht
    have hlen := congrArg List.length ht
    have hle := length_trimChars_le cs
    simp only [List.length_append, List.length_singleton] at hlen
    omega

end Text

namespace Declaration

open Text

/-! ## Names and what stands around them -/

/-- The characters of a name: there are some, without blank edges, and no parentheses. -/
structure IsName (cs : List Char) : Prop where
  ne_nil : cs ≠ []
  trimmed : trimChars cs = cs
  opening : '(' ∉ cs
  closing : ')' ∉ cs

/-- A name with a parameter behind it, perhaps after blanks. -/
def EndsInParameter (name cs : List Char) : Prop :=
  ∃ blanks inside, AllBlank blanks ∧ ')' ∉ inside ∧ cs = name ++ blanks ++ '(' :: (inside ++ [')'])

/-- A name that a parameter cuts in two, or with a parameter in front of it, perhaps before
blanks. -/
def HasParameterWithin (name cs : List Char) : Prop :=
  ∃ before inside blanks after, AllBlank blanks ∧ (before = [] ∨ blanks = []) ∧ ')' ∉ inside ∧
    after ≠ [] ∧ name = before ++ after ∧
      cs = before ++ '(' :: (inside ++ ')' :: (blanks ++ after))

variable {name cs : List Char}

theorem EndsInParameter.exists_parameterised? (hn : IsName name) (h : EndsInParameter name cs) :
    ∃ before inside, parameterised? cs = some (before, inside, []) ∧ trimChars before = name := by
  obtain ⟨blanks, inside, hb, hi, rfl⟩ := h
  have hfree : ∀ c, isBlank c = false → c ∉ name → c ∉ name ++ blanks := by
    intro c hc hcn hmem
    rcases List.mem_append.mp hmem with hmem | hmem
    · exact hcn hmem
    · simp [hb c hmem] at hc
  refine ⟨name ++ blanks, inside, parameterised?_eq_some_iff.mpr ⟨?_, ?_, hi, rfl⟩, ?_⟩
  · exact hfree _ (by decide) hn.opening
  · exact hfree _ (by decide) hn.closing
  · rw [trimChars_append_allBlank name hb, hn.trimmed]

theorem HasParameterWithin.exists_parameterised? (hn : IsName name)
    (h : HasParameterWithin name cs) : ∃ before inside after,
      parameterised? cs = some (before, inside, after) ∧ after ≠ [] ∧
        trimChars (before ++ after) = name := by
  obtain ⟨before, inside, blanks, after, hb, hside, hi, hne, rfl, rfl⟩ := h
  refine ⟨before, inside, blanks ++ after, parameterised?_eq_some_iff.mpr ⟨?_, ?_, hi, rfl⟩,
    fun hnil => hne (List.append_eq_nil_iff.mp hnil).2, ?_⟩
  · exact fun hmem => hn.opening (List.mem_append_left after hmem)
  · exact fun hmem => hn.closing (List.mem_append_left after hmem)
  · rcases hside with rfl | rfl
    · exact (trimChars_allBlank_append after hb).trans hn.trimmed
    · exact hn.trimmed

/-- If what stands around a parameter is a name but for blanks, then the parameter is behind, within
or in front of the name. -/
theorem endsInParameter_or_hasParameterWithin {before inside after : List Char}
    (hn : IsName name) (ht : trimChars (before ++ '(' :: (inside ++ ')' :: after)) =
      before ++ '(' :: (inside ++ ')' :: after))
    (hi : ')' ∉ inside) (h : trimChars (before ++ after) = name) :
    EndsInParameter name (before ++ '(' :: (inside ++ ')' :: after)) ∨
      HasParameterWithin name (before ++ '(' :: (inside ++ ')' :: after)) := by
  obtain ⟨left, right, hl, hr, hedges⟩ := exists_blanks_trimChars (before ++ after)
  rw [h] at hedges
  -- on the side where something of the text is left there are no blanks
  have hleft : before ≠ [] → left = [] := by
    intro hne
    obtain ⟨c, x, rfl⟩ := List.exists_cons_of_ne_nil hne
    exact eq_nil_of_trimmed_cons ht hl hedges
  have hright : after ≠ [] → right = [] := by
    intro hne
    obtain ⟨x, c, rfl⟩ := (List.eq_nil_or_concat after).resolve_left hne
    rw [List.concat_eq_append] at ht hedges
    rw [← List.append_assoc, ← List.append_assoc] at hedges
    have hlast : trimChars (before ++ '(' :: (inside ++ ')' :: x) ++ [c]) =
        before ++ '(' :: (inside ++ ')' :: x) ++ [c] := by simpa using ht
    exact eq_nil_of_trimmed_append hlast hr hedges
  by_cases ha : after = []
  · subst ha
    have hb : before ≠ [] := by
      rintro rfl
      exact hn.ne_nil (h.symm.trans rfl)
    obtain rfl := hleft hb
    rw [List.append_nil, List.nil_append] at hedges
    exact .inl ⟨right, inside, hr, hi, by rw [hedges]⟩
  · obtain rfl := hright ha
    rw [List.append_nil] at hedges
    by_cases hb : before = []
    · subst hb
      obtain rfl : after = left ++ name := hedges
      exact .inr ⟨[], inside, left, name, hl, .inl rfl, hi, hn.ne_nil, rfl, rfl⟩
    · obtain rfl := hleft hb
      exact .inr ⟨before, inside, [], after, hl, .inr rfl, hi, ha, hedges.symm, rfl⟩

/-- The base of a text without blank edges is a name exactly if the text is the name, alone or with
a parameter behind, within or in front of it. -/
theorem baseChars_eq_iff (hn : IsName name) (ht : trimChars cs = cs) :
    baseChars cs = name ↔
      cs = name ∨ EndsInParameter name cs ∨ HasParameterWithin name cs := by
  unfold baseChars
  constructor
  · intro h
    rcases hp : parameterised? cs with _ | ⟨before, inside, after⟩
    · simp only [hp, ht] at h
      exact .inl h
    · simp only [hp] at h
      obtain ⟨-, -, hi, rfl⟩ := parameterised?_eq_some_iff.mp hp
      exact .inr (endsInParameter_or_hasParameterWithin hn ht hi h)
  · rintro (rfl | h | h)
    · rw [parameterised?_eq_none_of_not_mem hn.opening]
      exact ht
    · obtain ⟨before, inside, hp, hb⟩ := h.exists_parameterised? hn
      simp only [hp, List.append_nil, hb]
    · obtain ⟨before, inside, after, hp, -, hb⟩ := h.exists_parameterised? hn
      simp only [hp, hb]

end Declaration

namespace StandardType

open Text Declaration

/-- A fixed name, or a parametric name with or without a parameter behind it. -/
def Grammatical (text : String) : Prop :=
  text ∈ fixedNames ∨ ∃ name ∈ parametricNames,
    text = name ∨ EndsInParameter name.toList text.toList

/-- A parametric name that a parameter interrupts or precedes. -/
def Interrupted (text : String) : Prop :=
  ∃ name ∈ parametricNames, HasParameterWithin name.toList text.toList

theorem isName_parametric : ∀ name ∈ parametricNames, IsName name.toList := by
  have h : ∀ name ∈ parametricNames, name.toList ≠ [] ∧ trimChars name.toList = name.toList ∧
      '(' ∉ name.toList ∧ ')' ∉ name.toList := by decide
  intro name hname
  obtain ⟨hne, ht, ho, hc⟩ := h name hname
  exact ⟨hne, ht, ho, hc⟩

theorem opening_not_mem_fixed : ∀ name ∈ fixedNames, '(' ∉ name.toList := by decide

theorem not_interrupted_of_grammatical {text : String} (h : Grammatical text) :
    ¬ Interrupted text := by
  rintro ⟨name, hname, hwithin⟩
  obtain ⟨before, inside, after, hp, hne, -⟩ :=
    hwithin.exists_parameterised? (isName_parametric name hname)
  rcases h with h | ⟨name', hname', rfl | h⟩
  · rw [parameterised?_eq_none_of_not_mem (opening_not_mem_fixed text h)] at hp
    cases hp
  · rw [parameterised?_eq_none_of_not_mem (isName_parametric text hname').opening] at hp
    cases hp
  · obtain ⟨b, i, hp', -⟩ := h.exists_parameterised? (isName_parametric name' hname')
    rw [hp'] at hp
    cases hp
    exact hne rfl

theorem trimmed_upper_trim (v : String) :
    trimChars (upper (trim v)).toList = (upper (trim v)).toList := by
  rw [upper, trim, String.toList_ofList, String.toList_ofList, trimChars_upperChars,
    trimChars_trimChars]

theorem base_eq_iff (v : String) {name : String} (hname : name ∈ parametricNames) :
    Declaration.base (upper (trim v)) = name ↔
      upper (trim v) = name ∨ EndsInParameter name.toList (upper (trim v)).toList ∨
        HasParameterWithin name.toList (upper (trim v)).toList := by
  rw [Declaration.base, ← String.toList_inj, String.toList_ofList,
    baseChars_eq_iff (isName_parametric name hname) (trimmed_upper_trim v), String.toList_inj]

theorem accepts_iff (v : String) :
    accepts v = true ↔ Grammatical (upper (trim v)) ∨ Interrupted (upper (trim v)) := by
  simp only [accepts, Bool.or_eq_true, decide_eq_true_eq]
  constructor
  · rintro (h | h)
    · exact .inl (.inl h)
    · rcases (base_eq_iff v h).mp rfl with hv | hv | hv
      · exact .inl (.inr ⟨_, h, .inl hv⟩)
      · exact .inl (.inr ⟨_, h, .inr hv⟩)
      · exact .inr ⟨_, h, hv⟩
  · rintro ((h | ⟨name, hname, h⟩) | ⟨name, hname, h⟩)
    · exact .inl h
    · rw [(base_eq_iff v hname).mpr (h.imp_right .inl)]
      exact .inr hname
    · rw [(base_eq_iff v hname).mpr (.inr (.inr h))]
      exact .inr hname

/-- The rule on standard types holds of a text exactly if the text, trimmed and in upper case, is as
a declaration is meant to be, or is a parametric name that a parameter interrupts or precedes.  It
holds of what is meant and of nothing else exactly apart from the latter. -/
theorem standardType_holds_iff (v : String) :
    let text := upper (trim v)
    ∃ valid, Rule.standardType.holds (some v) = .ok valid ∧
      (valid = true ↔ Grammatical text ∨ Interrupted text) ∧
      ((valid = true ↔ Grammatical text) ↔ ¬ Interrupted text) := by
  intro text
  have judged : Rule.standardType.holds (some v) = .ok (accepts v) := by
    rw [Rule.holds, Option.all_some]
  refine ⟨accepts v, judged, accepts_iff v, ?_⟩
  rw [accepts_iff v]
  constructor
  · intro h hi
    exact not_interrupted_of_grammatical (h.mp (.inr hi)) hi
  · exact fun hi => or_iff_left hi

/-- A parameter in the middle of a name. -/
theorem standardType_holds_of_interrupted :
    Rule.standardType.holds (some "VAR(10)CHAR") = .ok true ∧
      ¬ Grammatical (upper (trim "VAR(10)CHAR")) := by
  refine ⟨by decide +kernel, fun h => not_interrupted_of_grammatical h ?_⟩
  have text : (upper (trim "VAR(10)CHAR")).toList =
      "VAR".toList ++ '(' :: ("10".toList ++ ')' :: ([] ++ "CHAR".toList)) := by decide +kernel
  exact ⟨"VARCHAR", by decide, "VAR".toList, "10".toList, [], "CHAR".toList, nofun, .inr rfl,
    by decide, by decide, by decide, text⟩

end StandardType

end MigrationAudit
