import MigrationAudit.Proofs.Session.Ignoring

/-!
# Sessions that draw other names

Where two sessions over the same changelogs draw different names for constraints, but hit the same
ones among those that are looked for to be dropped, they do not part: both fail alike or find the
same, they remember the same, and they end with the same schema, always up to the drawn names
(`Audit.judgeLogs_drawing`).  Unlike `Step.Follows`, which compares sessions that succeed, a match
of steps says as well where both fail (`Step.Matches`).
-/

namespace MigrationAudit

/-! ## Steps that match -/

namespace Step

/-- From related states both steps end in related states; both fail alike, or both show the same
findings. -/
def Matches (related : Session → Session → Prop) (shown : Finding → Option Finding)
    (first second : Step) : Prop :=
  ∀ s s', related s s' → related (first s).1 (second s').1 ∧
    (first s).2.map (List.filterMap shown) = (second s').2.map (List.filterMap shown)

variable {related : Session → Session → Prop} {shown : Finding → Option Finding}

theorem matches_nothing : Matches related shown nothing nothing := fun _ _ hs => ⟨hs, rfl⟩

theorem Matches.andThen {first first' second second' : Step}
    (h : Matches related shown first first') (h' : Matches related shown second second') :
    Matches related shown (first.andThen second) (first'.andThen second') := by
  intro s s' hs
  obtain ⟨ht, hx⟩ := h s s' hs
  unfold Step.andThen
  rcases hfirst : first s with ⟨t, failure | x⟩ <;>
    rcases hfirst' : first' s' with ⟨t', failure' | x'⟩ <;> rw [hfirst, hfirst'] at ht hx
  · exact ⟨ht, hx⟩
  · cases hx
  · cases hx
  · obtain ⟨hu, hy⟩ := h' t t' ht
    have found : x.filterMap shown = x'.filterMap shown := Except.ok.inj hx
    rcases hsecond : second t with ⟨u, failure | y⟩ <;>
      rcases hsecond' : second' t' with ⟨u', failure' | y'⟩ <;> rw [hsecond, hsecond'] at hu hy
    · simpa only [hsecond, hsecond'] using And.intro hu hy
    · cases hy
    · cases hy
    · have more : y.filterMap shown = y'.filterMap shown := Except.ok.inj hy
      simp only [hsecond, hsecond']
      refine ⟨hu, congrArg Except.ok ?_⟩
      rw [List.filterMap_append, List.filterMap_append, found, more]

theorem Matches.all_map {α : Type} {first second : α → Step} {xs : List α}
    (h : ∀ x ∈ xs, Matches related shown (first x) (second x)) :
    Matches related shown (Step.all (xs.map first)) (Step.all (xs.map second)) :=
  all_map_related matches_nothing Matches.andThen h

end Step

/-- Tries of a check match, if the check is left out in both sessions or in none, remembers what
keeps the sessions related, and shows the same. -/
theorem Audit.matches_checked {related : Session → Session → Prop}
    {shown : Finding → Option Finding} {a a' : Audit} {check : String}
    {run run' : Session → Findings × Memory}
    (hignores : a'.policy.ignores check = a.policy.ignores check)
    (h : ∀ s s', related s s' →
      related { s with memory := (run s).2 } { s' with memory := (run' s').2 } ∧
        ((run s).1.map (tagged check)).map (List.filterMap shown) =
          ((run' s').1.map (tagged check)).map (List.filterMap shown)) :
    Step.Matches related shown (a.unlessIgnored check (checked check run))
      (a'.unlessIgnored check (checked check run')) := by
  unfold unlessIgnored
  rw [hignores]
  split
  · exact Step.matches_nothing
  · exact h

/-- Replays of one change match, up to the names that are drawn. -/
theorem Audit.matches_replayStep {names : List String} {f : String → String}
    {shown : Finding → Option Finding} {a a' : Audit} {p p' : ChangePlace}
    (hp : p'.change = p.change) (hc : p.change.Respects [] f)
    (hnaming : ∀ i, f (a.naming i) = f (a'.naming i)) :
    Step.Matches (Session.AlikeBut names f) shown (a.replayStep p) (a'.replayStep p') := by
  intro s s' hs
  rw [replayStep_eq, replayStep_eq, hp]
  exact ⟨⟨hs.schema.replay a.naming a'.naming hc fun i _ _ => hnaming i, hs.memory⟩, rfl⟩

/-! ## The session that draws other names -/

theorem Memory.AlikeBut.eq {m m' : Memory} (h : m.AlikeBut [] m') : m = m' := by
  obtain ⟨indexes, inserters, declarers, judgedFiles⟩ := m
  obtain ⟨hi, hr, hd, hj⟩ := h
  simp only [List.not_mem_nil, not_false_eq_true, forall_const] at hi hr hd hj
  rw [hi, hr, hd, hj]

namespace Audit

variable {a : Audit} {naming' : Naming} {f g : String → String}

/-- The second step matches the first one, where the second session draws other names. -/
def MatchesDrawing (f g : String → String) (first second : Step) : Prop :=
  Step.Matches (Session.AlikeBut [] f) (some ∘ Finding.renamed g) first second

/-- A check matches if it finds the same in both sessions and remembers the same. -/
theorem matchesDrawing_checked {check : String} {run run' : Session → Findings × Memory}
    (h : ∀ s s', Session.AlikeBut [] f s s' →
      (run s).1.renamed g = (run' s').1.renamed g ∧ (run s).2.AlikeBut [] (run' s').2) :
    MatchesDrawing f g (a.unlessIgnored check (checked check run))
      ((a.drawing naming').unlessIgnored check (checked check run')) := by
  refine matches_checked rfl fun s s' hs => ?_
  obtain ⟨found, memory⟩ := h s s' hs
  have shown : ∀ r : Findings, (r.map (tagged check)).map
      (List.filterMap (some ∘ Finding.renamed g)) = (r.renamed g).map (tagged check) := by
    rintro (failure | issues)
    · rfl
    · exact congrArg Except.ok (filterMap_renamed_tagged g check issues)
  exact ⟨⟨hs.schema, memory⟩, by rw [shown, shown, found]⟩

theorem matchesDrawing_setIssues (check : String) (issues : List Issue) :
    MatchesDrawing f g (a.unlessIgnored check (setIssues check issues))
      ((a.drawing naming').unlessIgnored check (setIssues check issues)) := by
  rw [setIssues_eq_checked]
  exact matchesDrawing_checked fun _ _ hs => ⟨rfl, hs.memory⟩

theorem matchesDrawing_judgeSet (place : SetPlace) :
    MatchesDrawing f g (a.judgeSet place) ((a.drawing naming').judgeSet place) := by
  refine judgeSet_related Step.matches_nothing Step.Matches.andThen rfl rfl
    matchesDrawing_setIssues fun check => ?_
  rw [setCheckStep_eq_checked, setCheckStep_eq_checked]
  refine matchesDrawing_checked fun s s' hs => ?_
  obtain ⟨issues, memory⟩ := SetCheck.run_both hs.memory List.not_mem_nil a.policy place
  exact ⟨congrArg (fun issues => Findings.renamed g (.ok issues)) issues, memory⟩

variable {place : ChangePlace}

theorem matchesDrawing_judgeChange (hcmp : a.Comparable naming' f g)
    (hc : place.change.Respects [] f) :
    MatchesDrawing f g (a.judgeChange place) ((a.drawing naming').judgeChange place) := by
  refine judgeChange_related Step.matches_nothing Step.Matches.andThen rfl rfl
    (matches_replayStep rfl hc hcmp.naming) (fun check hcheck => ?_) fun check => ?_
  · rw [extraChangeStep_eq_checked, extraChangeStep_eq_checked]
    exact matchesDrawing_checked fun _ _ hs =>
      ⟨hcmp.extra check hcheck _ _ hs.schema place, hs.memory⟩
  · refine matchesDrawing_checked fun s s' hs => ?_
    have look := hs.schema.sight_eq hcmp.coarser
    have store := Schema.alike_of_sight hs.schema.columnar hs.schema.columnar' look
    exact ChangeCheck.run_both hs.memory List.not_mem_nil store a.policy place

theorem matchesDrawing_judgeLogs (hcmp : a.Comparable naming' f g) {logs : List Changelog}
    (hc : ∀ place ∈ a.judged logs, place.change.Respects [] f) :
    MatchesDrawing f g (a.judgeLogs logs) ((a.drawing naming').judgeLogs logs) := by
  rw [judgeLogs_eq_all, judgeLogs_eq_all]
  have items : (a.drawing naming').items logs = a.items logs := rfl
  rw [items]
  refine Step.Matches.all_map fun item hitem => ?_
  cases item with
  | set place => exact matchesDrawing_judgeSet place
  | change place =>
    exact matchesDrawing_judgeChange hcmp (hc place (a.mem_judged_of_mem_items hitem))

/-- Sessions that draw different names fail alike or find the same, remember the same and end with
the same schema, up to these names, as long as both hit the same names among those that are looked
for to be dropped. -/
theorem judgeLogs_drawing {logs : List Changelog}
    (halike : Naming.Alike (a.droppedNames logs) a.naming naming')
    (hblind : ∀ check ∈ a.extraChangeChecks, check.Blind) :
    let r := a.judgeLogs logs .empty
    let r' := (a.drawing naming').judgeLogs logs .empty
    r'.1.schema.store.masked = r.1.schema.store.masked ∧ r'.1.memory = r.1.memory ∧
      r'.2.map (List.map Finding.masked) = r.2.map (List.map Finding.masked) := by
  obtain ⟨f, hfix, hnaming⟩ := halike.exists_renaming
  have masked : ∀ {s s' : Schema}, Schema.Agree [] f 0 s s' → s.store.masked = s'.store.masked :=
    fun hs => Schema.masked_eq hs.columnar hs.columnar' (hs.sight_eq rfl)
  have hcmp : a.Comparable naming' f mask :=
    ⟨rfl, hnaming, fun check hcheck _ _ hs place => hblind check hcheck place _ _ (masked hs)⟩
  have start : Session.AlikeBut [] f .empty .empty :=
    ⟨.refl Schema.columnar_empty, Memory.alikeBut_refl _⟩
  obtain ⟨hs, same⟩ :=
    matchesDrawing_judgeLogs hcmp (respects_of_fixes hfix) .empty .empty start
  have renamed : List.filterMap (some ∘ Finding.renamed mask) = List.map Finding.masked := by
    rw [List.filterMap_eq_map, Finding.masked_eq_renamed]
  rw [renamed] at same
  exact ⟨(masked hs.schema).symm, hs.memory.eq.symm, same.symm⟩

end Audit

end MigrationAudit
