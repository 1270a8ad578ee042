import MigrationAudit.Proofs.Session.Verdicts

/-!
# Changes on tables of their own

A change that is inserted somewhere into changelogs and touches only tables that no other change of
the session touches goes unnoticed by the others: their verdicts stay the same but for those of the
checks that look at what came before, and every table that it does not touch ends up with the same
entries (`Audit.verdicts_inserted`).  The names that are drawn for the change itself are passed over
when the draws of the two sessions are compared (`Naming.passingOver`).
-/

namespace MigrationAudit

/-- The naming without some draws in a row. -/
def Naming.passingOver (naming : Naming) (first count : Nat) : Naming := fun i =>
  naming (if i < first then i else i + count)

/-! ## Gaps in changelogs -/

/-- A place between two changes of a set in changelogs. -/
structure Gap where
  logsBefore : List Changelog
  /-- The changelog with the gap, its change sets apart. -/
  log : Changelog
  setsBefore : List ChangeSet
  /-- The change set with the gap, its changes apart. -/
  set : ChangeSet
  earlier : List Change
  later : List Change
  setsAfter : List ChangeSet
  logsAfter : List Changelog

namespace Gap

variable (g : Gap)

def setWith (changes : List Change) : ChangeSet :=
  { g.set with changes := g.earlier ++ (changes ++ g.later) }

def logWith (changes : List Change) : Changelog :=
  { g.log with changeSets := g.setsBefore ++ g.setWith changes :: g.setsAfter }

def placeWith (changes : List Change) : SetPlace := ⟨g.logWith changes, g.setWith changes⟩

/-- The changelogs with changes in the gap. -/
def logsWith (changes : List Change) : List Changelog :=
  g.logsBefore ++ g.logWith changes :: g.logsAfter

/-- Of changes in the set with the gap those that a session judges: all of them or none. -/
def kept (a : Audit) {α : Type} (l : List α) : List α := if a.policy.skips g.set then [] else l

/-- The changes that a session judges before the gap. -/
def before (a : Audit) : List Change :=
  (a.judged g.logsBefore ++ a.judgedIn { g.log with changeSets := g.setsBefore }).map (·.change) ++
    g.kept a g.earlier

/-- Verdicts without the one on a change in the gap. -/
def leaveOut (a : Audit) {α : Type} (verdicts : List α) : List α :=
  if a.policy.skips g.set then verdicts else verdicts.eraseIdx (g.before a).length

end Gap

/-! ## The places of a change set in parts -/

namespace SetPlace

/-- The places of some changes between other ones. -/
def placesWithin (place : SetPlace) (earlier : List Change) :
    List Change → List Change → List ChangePlace
  | [], _ => []
  | c :: cs, later => ⟨place, earlier, c, cs ++ later⟩ :: place.placesWithin (earlier ++ [c]) cs later

variable (place : SetPlace)

theorem placesAfter_eq_placesWithin : ∀ earlier changes : List Change,
    place.placesAfter earlier changes = place.placesWithin earlier changes []
  | _, [] => rfl
  | earlier, c :: cs => by
    rw [placesAfter, placesWithin, List.append_nil, placesAfter_eq_placesWithin]

theorem placesWithin_append : ∀ earlier xs ys later : List Change,
    place.placesWithin earlier (xs ++ ys) later =
      place.placesWithin earlier xs (ys ++ later) ++ place.placesWithin (earlier ++ xs) ys later
  | earlier, [], ys, later => by simp [placesWithin]
  | earlier, x :: xs, ys, later => by
    simp only [List.cons_append, placesWithin, placesWithin_append (earlier ++ [x]) xs ys later,
      List.append_assoc, List.nil_append]

theorem placesWithin_map_change : ∀ earlier xs later : List Change,
    (place.placesWithin earlier xs later).map (·.change) = xs
  | _, [], _ => rfl
  | earlier, x :: xs, later => by
    rw [placesWithin, List.map_cons, placesWithin_map_change]

end SetPlace

/-! ## A change beside changes on other tables -/

namespace Change

variable {d : Change}

/-- A change that declares columns or denies null does not go through without a table. -/
theorem exists_tableName (hok : d.script.failure = none)
    (he : d.element = .createTable ∨ d.element = .addColumn ∨ d.element = .addNotNullConstraint) :
    ∃ t, d.text? .tableName = some t := by
  have hc : d.columnScript.failure = none := Script.failure_eq_none_of_andThen hok
  cases ht : d.text? .tableName with
  | some t => exact ⟨t, rfl⟩
  | none =>
    unfold columnScript declareColumns require at hc
    rcases he with he | he | he <;> rw [he, ht] at hc <;> cases hc

end Change

namespace Check

variable {c d : Change}

theorem not_declaresColumn (hok : d.script.failure = none)
    (hd : List.Disjoint c.tables d.tables) (column : Option String) :
    declaresColumn (c.text? .tableName) column d = false := by
  rw [← Bool.not_eq_true]
  intro h
  simp only [declaresColumn, Bool.and_eq_true, beq_iff_eq] at h
  obtain ⟨⟨element, table⟩, -⟩ := h
  obtain ⟨t, ht⟩ := Change.exists_tableName hok <| by
    cases he : d.element <;> simp_all [createsColumns]
  exact hd (Change.mem_tables (by decide) (table ▸ ht)) (Change.mem_tables (by decide) ht)

theorem not_deniesNullTenant (hok : d.script.failure = none)
    (hd : List.Disjoint c.tables d.tables) :
    deniesNullTenant (c.text? .tableName) d = false := by
  rw [← Bool.not_eq_true]
  intro h
  simp only [deniesNullTenant, Bool.and_eq_true, beq_iff_eq] at h
  obtain ⟨⟨element, -⟩, table⟩ := h
  obtain ⟨t, ht⟩ := Change.exists_tableName hok (.inr (.inr element))
  exact hd (Change.mem_tables (by decide) (table ▸ ht)) (Change.mem_tables (by decide) ht)

end Check

/-! ## Agendas around a gap -/

namespace Item

/-- The changes that an item judges. -/
def changes : Item → List Change
  | .set _ => []
  | .change place => [place.change]

end Item

namespace Audit

variable {a : Audit}

/-- The items of a change set in its changelog. -/
def itemsOfSet (a : Audit) (log : Changelog) (set : ChangeSet) : List Item :=
  if a.policy.skips set then [] else SetPlace.items ⟨log, set⟩

theorem itemsIn_eq (log : Changelog) :
    a.itemsIn log = log.changeSets.flatMap (a.itemsOfSet log) := by
  unfold itemsIn Changelog.places
  generalize log.changeSets = sets
  induction sets with
  | nil => rfl
  | cons set sets ih =>
    rw [List.map_cons, List.filter_cons, List.flatMap_cons, ← ih]
    by_cases h : a.policy.skips set = true <;> simp [itemsOfSet, h]

theorem changes_map_change (places : List ChangePlace) :
    (places.map Item.change).flatMap Item.changes = places.map (·.change) := by
  rw [List.flatMap_map]
  exact List.map_eq_flatMap.symm

theorem changes_itemsOfPlace (place : SetPlace) :
    place.items.flatMap Item.changes = place.places.map (·.change) :=
  changes_map_change place.places

theorem changes_itemsIn (log : Changelog) :
    (a.itemsIn log).flatMap Item.changes = (a.judgedIn log).map (·.change) := by
  simp only [itemsIn, judgedIn, List.flatMap_assoc, List.map_flatMap, changes_itemsOfPlace]

theorem changes_items (logs : List Changelog) :
    (a.items logs).flatMap Item.changes = (a.judged logs).map (·.change) := by
  simp only [items, judged, List.flatMap_assoc, List.map_flatMap, changes_itemsIn]

theorem changes_itemsOfSet (log : Changelog) (set : ChangeSet) :
    (a.itemsOfSet log set).flatMap Item.changes =
      if a.policy.skips set then [] else set.changes := by
  unfold itemsOfSet
  split
  · rfl
  · rw [changes_itemsOfPlace, SetPlace.places_map_change]

/-- Which changes are judged in change sets does not depend on the changelog around them. -/
theorem changes_itemsOfSets (log : Changelog) (sets : List ChangeSet) :
    (sets.flatMap (a.itemsOfSet log)).flatMap Item.changes =
      (a.judgedIn { log with changeSets := sets }).map (·.change) := by
  rw [← changes_itemsIn, itemsIn_eq]
  simp only [List.flatMap_assoc, changes_itemsOfSet]

/-- A step for an agenda replays its changes. -/
theorem schema_all {xs : List Item} {s t : Session} {found : List Finding}
    (h : Step.all (xs.map a.judge) s = (t, .ok found)) :
    t.schema = s.schema.replayAll a.naming (xs.flatMap Item.changes) := by
  induction xs generalizing s found with
  | nil =>
    obtain ⟨rfl, -⟩ := Prod.mk.inj h
    rfl
  | cons x xs ih =>
    obtain ⟨s₁, f, g, hx, hxs, rfl⟩ := Step.andThen_eq_ok_iff.mp h
    rw [List.flatMap_cons, Schema.replayAll_append, ih hxs]
    cases x with
    | set place => rw [judgeSet_keeps hx]; rfl
    | change place => rw [(judgeChange_eq_ok hx).1]; rfl

theorem verdicts_map_change (xs : List Item) (s : Session) :
    (a.verdicts xs s).map (·.1.change) = xs.flatMap Item.changes := by
  induction xs generalizing s with
  | nil => rfl
  | cons x xs ih =>
    rw [verdicts, List.map_append, ih, List.flatMap_cons]
    cases x <;> rfl

/-! ## Agendas with and without the change in the gap -/

section Gaps

variable (a) (g : Gap)

/-- The items up to the gap. -/
def opening (changes : List Change) : List Item :=
  a.items g.logsBefore ++ (g.setsBefore.flatMap (a.itemsOfSet (g.logWith changes)) ++
    g.kept a (.set (g.placeWith changes) ::
      ((g.placeWith changes).placesWithin [] g.earlier (changes ++ g.later)).map .change))

/-- The items of changes in the gap. -/
def inGap (changes : List Change) : List Item :=
  g.kept a (((g.placeWith changes).placesWithin g.earlier changes g.later).map .change)

/-- The items after the gap. -/
def closing (changes : List Change) : List Item :=
  g.kept a (((g.placeWith changes).placesWithin (g.earlier ++ changes) g.later []).map .change) ++
    (g.setsAfter.flatMap (a.itemsOfSet (g.logWith changes)) ++ a.items g.logsAfter)

theorem items_logsWith (changes : List Change) :
    a.items (g.logsWith changes) =
      a.opening g changes ++ (a.inGap g changes ++ a.closing g changes) := by
  have hset : a.itemsOfSet (g.logWith changes) (g.setWith changes) =
      g.kept a (.set (g.placeWith changes) ::
        ((g.placeWith changes).placesWithin [] g.earlier (changes ++ g.later)).map .change) ++
      (a.inGap g changes ++ g.kept a
        (((g.placeWith changes).placesWithin (g.earlier ++ changes) g.later []).map .change)) := by
    have hskips : a.policy.skips (g.setWith changes) = a.policy.skips g.set := rfl
    have hplaces : (g.placeWith changes).places =
        (g.placeWith changes).placesWithin [] g.earlier (changes ++ g.later) ++
          ((g.placeWith changes).placesWithin g.earlier changes g.later ++
            (g.placeWith changes).placesWithin (g.earlier ++ changes) g.later []) := by
      have hchanges : (g.placeWith changes).changeSet.changes =
          g.earlier ++ (changes ++ g.later) := rfl
      rw [SetPlace.places, hchanges, SetPlace.placesAfter_eq_placesWithin,
        SetPlace.placesWithin_append, SetPlace.placesWithin_append, List.append_nil,
        List.append_nil, List.nil_append]
    unfold itemsOfSet inGap Gap.kept
    rw [hskips]
    split
    · rfl
    · have hplace : (⟨g.logWith changes, g.setWith changes⟩ : SetPlace) = g.placeWith changes := rfl
      simp only [hplace, SetPlace.items, hplaces, List.map_append, List.cons_append]
  have hlog : a.itemsIn (g.logWith changes) =
      g.setsBefore.flatMap (a.itemsOfSet (g.logWith changes)) ++
        (a.itemsOfSet (g.logWith changes) (g.setWith changes) ++
          g.setsAfter.flatMap (a.itemsOfSet (g.logWith changes))) := by
    rw [itemsIn_eq]
    simp only [Gap.logWith, List.flatMap_append, List.flatMap_cons]
  rw [items, Gap.logsWith, List.flatMap_append, List.flatMap_cons, hlog, hset]
  simp only [opening, closing, items, List.append_assoc]

theorem changes_opening (changes : List Change) :
    (a.opening g changes).flatMap Item.changes = g.before a := by
  have hset : (g.kept a (Item.set (g.placeWith changes) ::
      ((g.placeWith changes).placesWithin [] g.earlier (changes ++ g.later)).map .change)).flatMap
        Item.changes = g.kept a g.earlier := by
    unfold Gap.kept
    split
    · rfl
    · exact (changes_map_change _).trans (SetPlace.placesWithin_map_change _ _ _ _)
  rw [opening, List.flatMap_append, List.flatMap_append, changes_items, changes_itemsOfSets, hset,
    Gap.before, List.map_append, List.append_assoc]
  rfl

end Gaps

section Alike

variable {tables : List String} {f : String → String}

theorem itemsAlike_refl : ∀ {xs : List Item},
    (∀ c ∈ xs.flatMap Item.changes, c.Respects tables f) →
      List.Forall₂ (ItemsAlike tables f) xs xs
  | [], _ => .nil
  | x :: xs, h => by
    simp only [List.flatMap_cons, List.forall_mem_append] at h
    refine .cons ?_ (itemsAlike_refl h.2)
    cases x with
    | set place => exact .set place place
    | change place => exact .change place.alike_refl (h.1 _ List.mem_cons_self)

/-- Changes are alike between other ones that decide alike about columns and tenants of tables apart
from those given. -/
theorem placesWithin_alike {place place' : SetPlace}
    (hissue : ∀ field cause, Issue.ofSet place' field cause = Issue.ofSet place field cause) :
    ∀ {xs earlier earlier' later later' : List Change},
      (∀ c : Change, List.Disjoint c.tables tables → ∀ column,
        earlier'.any (Check.declaresColumn (c.text? .tableName) column) =
          earlier.any (Check.declaresColumn (c.text? .tableName) column)) →
      (∀ c : Change, List.Disjoint c.tables tables →
        later'.any (Check.deniesNullTenant (c.text? .tableName)) =
          later.any (Check.deniesNullTenant (c.text? .tableName))) →
      (∀ c ∈ xs, c.Respects tables f) →
      List.Forall₂ (ItemsAlike tables f) ((place.placesWithin earlier xs later).map .change)
        ((place'.placesWithin earlier' xs later').map .change)
  | [], _, _, _, _, _, _, _ => .nil
  | x :: xs, earlier, earlier', later, later', hearlier, hlater, hr => by
    have hx := hr x List.mem_cons_self
    refine .cons (.change ⟨rfl, fun element field cause => ?_, ?_, ?_⟩ hx) ?_
    · simp only [Issue.ofElement, hissue]
    · exact hearlier x hx.disjoint
    · simp only [List.any_append, hlater x hx.disjoint]
    · refine placesWithin_alike hissue (fun c hc column => ?_) hlater
        fun c hc => hr c (List.mem_cons_of_mem x hc)
      simp only [List.any_append, hearlier c hc column]

theorem itemsOfSets_alike {log log' : Changelog}
    (hissue : ∀ set field cause,
      Issue.ofSet ⟨log', set⟩ field cause = Issue.ofSet ⟨log, set⟩ field cause) :
    ∀ {sets : List ChangeSet},
      (∀ c ∈ (sets.flatMap (a.itemsOfSet log)).flatMap Item.changes, c.Respects tables f) →
        List.Forall₂ (ItemsAlike tables f) (sets.flatMap (a.itemsOfSet log))
          (sets.flatMap (a.itemsOfSet log'))
  | [], _ => .nil
  | set :: sets, h => by
    simp only [List.flatMap_cons, List.flatMap_append, List.forall_mem_append,
      changes_itemsOfSet] at h
    refine List.rel_append ?_ (itemsOfSets_alike hissue h.2)
    unfold itemsOfSet
    split
    · exact .nil
    · next hskip =>
      rw [if_neg hskip] at h
      rw [SetPlace.items, SetPlace.items, SetPlace.places, SetPlace.places,
        SetPlace.placesAfter_eq_placesWithin, SetPlace.placesAfter_eq_placesWithin]
      refine .cons (.set _ _) (placesWithin_alike (hissue set) ?_ ?_ h.1)
      · exact fun _ _ _ => rfl
      · exact fun _ _ => rfl

theorem opening_alike {g : Gap} {d : Change}
    (hok : ¬ a.policy.skips g.set = true → d.script.failure = none)
    (h : ∀ c ∈ (a.opening g []).flatMap Item.changes, c.Respects d.tables f) :
    List.Forall₂ (ItemsAlike d.tables f) (a.opening g []) (a.opening g [d]) := by
  have hissue : ∀ set field cause, Issue.ofSet ⟨g.logWith [d], set⟩ field cause =
      Issue.ofSet ⟨g.logWith [], set⟩ field cause := fun _ _ _ => rfl
  have hplace : ∀ field cause, Issue.ofSet (g.placeWith [d]) field cause =
      Issue.ofSet (g.placeWith []) field cause := fun _ _ => rfl
  rw [opening, List.flatMap_append, List.flatMap_append, List.forall_mem_append,
    List.forall_mem_append] at h
  obtain ⟨hlogs, hsets, hset⟩ := h
  refine List.rel_append (itemsAlike_refl hlogs)
    (List.rel_append (itemsOfSets_alike hissue hsets) ?_)
  unfold Gap.kept at hset ⊢
  split
  · exact .nil
  next hskip =>
  rw [if_neg hskip, List.flatMap_cons, changes_map_change,
    SetPlace.placesWithin_map_change] at hset
  refine .cons (.set _ _) (placesWithin_alike hplace (fun _ _ _ => rfl) (fun c hc => ?_) hset)
  rw [List.any_append, List.any_append, List.any_cons, Check.not_deniesNullTenant (hok hskip) hc]
  rfl

theorem closing_alike {g : Gap} {d : Change}
    (hok : ¬ a.policy.skips g.set = true → d.script.failure = none)
    (h : ∀ c ∈ (a.closing g []).flatMap Item.changes, c.Respects d.tables f) :
    List.Forall₂ (ItemsAlike d.tables f) (a.closing g []) (a.closing g [d]) := by
  have hissue : ∀ set field cause, Issue.ofSet ⟨g.logWith [d], set⟩ field cause =
      Issue.ofSet ⟨g.logWith [], set⟩ field cause := fun _ _ _ => rfl
  have hplace : ∀ field cause, Issue.ofSet (g.placeWith [d]) field cause =
      Issue.ofSet (g.placeWith []) field cause := fun _ _ => rfl
  rw [closing, List.flatMap_append, List.flatMap_append, List.forall_mem_append,
    List.forall_mem_append] at h
  obtain ⟨hset, hsets, hlogs⟩ := h
  refine List.rel_append ?_ (List.rel_append (itemsOfSets_alike hissue hsets)
    (itemsAlike_refl hlogs))
  unfold Gap.kept at hset ⊢
  split
  · exact .nil
  next hskip =>
  rw [if_neg hskip, changes_map_change, SetPlace.placesWithin_map_change] at hset
  refine placesWithin_alike hplace (fun c hc column => ?_) (fun _ _ => rfl) hset
  rw [List.any_append, List.any_append, List.any_cons,
    Check.not_declaresColumn (hok hskip) hc column]
  rfl

end Alike

/-! ## Sessions with and without the change in the gap -/

variable {g : Gap} {d : Change} {naming' : Naming} {s s' : Session} {found found' : List Finding}

/-- How many names a session draws before the gap. -/
def drawnBefore (a : Audit) (g : Gap) : Nat :=
  (Schema.empty.replayAll a.naming (g.before a)).drawn

/-- How many names a session draws for a change in the gap. -/
def drawnFor (a : Audit) (g : Gap) (d : Change) : Nat :=
  (Schema.empty.replayAll a.naming (g.before a ++ g.kept a [d])).drawn - a.drawnBefore g

theorem inGap_nil : a.inGap g [] = [] := by
  unfold inGap Gap.kept
  split <;> rfl

theorem changes_inGap : (a.inGap g [d]).flatMap Item.changes = g.kept a [d] := by
  unfold inGap Gap.kept
  split <;> rfl

/-- The change in the gap goes through, if it is judged. -/
theorem failure_of_inGap {t u : Session}
    (h : Step.all ((a.inGap g [d]).map a.judge) t = (u, .ok found))
    (hskip : ¬ a.policy.skips g.set = true) : d.script.failure = none := by
  rw [inGap, Gap.kept, if_neg hskip, SetPlace.placesWithin, List.map_cons, List.map_cons,
    Step.all_cons] at h
  obtain ⟨s₁, x, y, hx, -, -⟩ := Step.andThen_eq_ok_iff.mp h
  exact (judgeChange_eq_ok hx).2.1

/-- The change in the gap makes no difference to the schema outside its own tables. -/
theorem agree_inGap {f : String → String} {r t u : Session}
    (hr : Schema.Agree d.tables f 0 r.schema t.schema)
    (h : Step.all ((a.inGap g [d]).map a.judge) t = (u, .ok found)) :
    Schema.Agree d.tables f (u.schema.drawn - t.schema.drawn) r.schema u.schema := by
  have hu := schema_all h
  rw [changes_inGap] at hu
  by_cases hskip : a.policy.skips g.set = true
  · have hnil : t.schema.replayAll a.naming [] = t.schema := rfl
    rw [hu, Gap.kept, if_pos hskip, hnil, Nat.sub_self]
    exact hr
  · have hframe := hr.frame a.naming (List.Subset.refl d.tables)
    rw [Nat.zero_add] at hframe
    rw [hu, Gap.kept, if_neg hskip]
    exact hframe

/-- Where the verdict on the change in the gap is left out, those before and after it remain. -/
theorem leaveOut_verdicts {s t u : Session} {found more : List Finding}
    (hopen : Step.all ((a.opening g [d]).map a.judge) s = (t, .ok found))
    (hgap : Step.all ((a.inGap g [d]).map a.judge) t = (u, .ok more)) :
    g.leaveOut a (a.verdicts (a.items (g.logsWith [d])) s) =
      a.verdicts (a.opening g [d]) s ++ a.verdicts (a.closing g [d]) u := by
  rw [items_logsWith, verdicts_append hopen, verdicts_append hgap]
  have hlength : (a.verdicts (a.opening g [d]) s).length = (g.before a).length := by
    rw [← changes_opening a g [d], ← verdicts_map_change _ s, List.length_map]
  unfold Gap.leaveOut
  by_cases hskip : a.policy.skips g.set = true
  · rw [if_pos hskip, inGap, Gap.kept, if_pos hskip, verdicts, List.nil_append]
  · rw [if_neg hskip, ← hlength, List.eraseIdx_append_of_length_le le_rfl, Nat.sub_self, inGap,
      Gap.kept, if_neg hskip]
    rfl

/-- A change that touches only tables of its own is invisible to the others: with and without it
they get the same verdicts but for the checks that look at what came before, and the other tables
end up with the same entries. -/
theorem verdicts_inserted (h : a.judgeLogs (g.logsWith []) .empty = (s, .ok found))
    (h' : (a.drawing naming').judgeLogs (g.logsWith [d]) .empty = (s', .ok found'))
    (hd : ∀ place ∈ a.judged (g.logsWith []), List.Disjoint place.change.tables d.tables)
    (hn : Naming.Alike (a.droppedNames (g.logsWith [])) a.naming
      (naming'.passingOver (a.drawnBefore g) ((a.drawing naming').drawnFor g d))) :
    List.Forall₂ SameVerdict (a.verdicts (a.items (g.logsWith [])) .empty)
        (g.leaveOut a ((a.drawing naming').verdicts (a.items (g.logsWith [d])) .empty)) ∧
      (s'.schema.store.within fun t => t ∉ d.tables).masked =
        (s.schema.store.within fun t => t ∉ d.tables).masked := by
  obtain ⟨f, hfix, hnaming⟩ := hn.exists_renaming
  have hr : ∀ c ∈ (a.items (g.logsWith [])).flatMap Item.changes, c.Respects d.tables f := by
    rw [changes_items]
    refine List.forall_mem_map.mpr fun place hplace => ⟨hd place hplace, fun name hname => ?_⟩
    exact hfix name (List.mem_flatMap.mpr ⟨place, hplace, hname⟩)
  have hitems : (a.drawing naming').items (g.logsWith [d]) = a.items (g.logsWith [d]) := rfl
  rw [judgeLogs_eq_all, items_logsWith, inGap_nil, List.nil_append, List.map_append,
    Step.all_append] at h
  rw [judgeLogs_eq_all, hitems, items_logsWith, List.map_append, List.map_append,
    Step.all_append, Step.all_append] at h'
  rw [items_logsWith, inGap_nil, List.nil_append, List.flatMap_append,
    List.forall_mem_append] at hr
  obtain ⟨t, x, y, hopen, hclose, rfl⟩ := Step.andThen_eq_ok_iff.mp h
  obtain ⟨t', x', z', hopen', hrest', rfl⟩ := Step.andThen_eq_ok_iff.mp h'
  obtain ⟨u', w', y', hgap', hclose', rfl⟩ := Step.andThen_eq_ok_iff.mp hrest'
  have hok : ¬ a.policy.skips g.set = true → d.script.failure = none :=
    failure_of_inGap (a := a.drawing naming') hgap'
  -- the names for the change in the gap are drawn where the first session has come to the gap
  have first : a.drawnBefore g = t.schema.drawn := by
    rw [schema_all hopen, changes_opening]
    rfl
  have ht' : t'.schema = Schema.empty.replayAll naming' (g.before a) :=
    (schema_all hopen').trans (by rw [changes_opening]; rfl)
  have hu' : u'.schema = Schema.empty.replayAll naming' (g.before a ++ g.kept a [d]) := by
    have hgap := schema_all hgap'
    rw [Schema.replayAll_append, ← ht', ← changes_inGap]
    exact hgap
  have count : (a.drawing naming').drawnFor g d = u'.schema.drawn - t'.schema.drawn := by
    rw [hu', ht']
    rfl
  rw [first, count] at hnaming
  have start : Schema.Agree d.tables f 0 Session.empty.schema Session.empty.schema :=
    .refl Schema.columnar_empty
  obtain ⟨hverdicts, hagree⟩ := verdicts_alike (opening_alike hok hr.1) start hopen hopen'
    fun i _ hlt => by
      have hi := hnaming i
      rwa [Naming.passingOver, if_pos hlt] at hi
  have hgap := agree_inGap (a := a.drawing naming') hagree hgap'
  obtain ⟨hverdicts', hagree'⟩ := verdicts_alike (closing_alike hok hr.2) hgap hclose hclose'
    fun i hle _ => by
      have hi := hnaming i
      rwa [Naming.passingOver, if_neg (Nat.not_lt.mpr hle)] at hi
  refine ⟨?_, ?_⟩
  · have hleave := leaveOut_verdicts (a := a.drawing naming') hopen' hgap'
    have hsame : ∀ l : List Verdict, g.leaveOut (a.drawing naming') l = g.leaveOut a l :=
      fun _ => rfl
    rw [hsame, hitems] at hleave
    rw [hleave, items_logsWith, inGap_nil, List.nil_append, verdicts_append hopen]
    exact List.rel_append hverdicts hverdicts'
  · exact (Schema.masked_within_eq hagree'.columnar hagree'.columnar' (hagree'.sight_eq rfl)
      fun t ht => of_decide_eq_true ht).symm

/-- Between a table with a nameless key and the renaming of its column. -/
def keyedTableGap : Gap :=
  { logsBefore := []
    log := ⟨none, "", []⟩
    setsBefore := []
    set := .ofChanges []
    earlier := [.ofTexts .createTable [(.tableName, "t")]
      [⟨[(.name, .text "v")], some ⟨[(.primaryKey, .flag true)]⟩⟩]]
    later := [.ofTexts .renameColumn
        [(.tableName, "t"), (.oldColumnName, "v"), (.newColumnName, "w")] [],
      .ofTexts .dropPrimaryKey [(.tableName, "t"), (.constraintName, "pk")] []]
    setsAfter := []
    logsAfter := [] }

/-- Another table with a nameless key. -/
def otherKeyedTable : Change :=
  .ofTexts .createTable [(.tableName, "u")]
    [⟨[(.name, .text "v")], some ⟨[(.primaryKey, .flag true)]⟩⟩]

/-- What is found with the renamed column, which has a key of the given name. -/
def foundInKeyedTable (key : String) : List Finding :=
  [⟨"columnConstraints", ⟨"", some "renameColumn", none,
    .renamedWhileReferred "t" "v" [⟨.primaryKey, .drawn key⟩], some "", none⟩⟩]

theorem verdicts_with_otherKeyedTable :
    (plain.judgeLogs (keyedTableGap.logsWith []) .empty).2 = .ok (foundInKeyedTable "") ∧
      ((plain.drawing fun _ => "k").judgeLogs (keyedTableGap.logsWith [otherKeyedTable]) .empty).2 =
        .ok (foundInKeyedTable "k") ∧
      List.Forall₂ SameVerdict (plain.verdicts (plain.items (keyedTableGap.logsWith [])) .empty)
        (keyedTableGap.leaveOut plain ((plain.drawing fun _ => "k").verdicts
          (plain.items (keyedTableGap.logsWith [otherKeyedTable])) .empty)) ∧
      (((plain.drawing fun _ => "k").judgeLogs (keyedTableGap.logsWith [otherKeyedTable])
          .empty).1.schema.store.within fun t => t ∉ otherKeyedTable.tables).masked =
        ((plain.judgeLogs (keyedTableGap.logsWith []) .empty).1.schema.store.within
          fun t => t ∉ otherKeyedTable.tables).masked := by
  have found : (plain.judgeLogs (keyedTableGap.logsWith []) .empty).2 =
    .ok (foundInKeyedTable "") := by decide +kernel
  have found' : ((plain.drawing fun _ => "k").judgeLogs
      (keyedTableGap.logsWith [otherKeyedTable]) .empty).2 = .ok (foundInKeyedTable "k") := by
    decide +kernel
  have apart : ∀ place ∈ plain.judged (keyedTableGap.logsWith []),
      List.Disjoint place.change.tables otherKeyedTable.tables := by
    have tables : ∀ c ∈ (plain.judged (keyedTableGap.logsWith [])).map (·.change),
        ∀ t ∈ c.tables, t ∉ otherKeyedTable.tables := by decide +kernel
    exact fun place hplace => List.disjoint_left.mpr fun t ht =>
      tables place.change (List.mem_map_of_mem hplace) t ht
  have dropped : plain.droppedNames (keyedTableGap.logsWith []) = ["pk"] := by decide +kernel
  refine ⟨found, found', verdicts_inserted (Step.eq_mk_of_snd found) (Step.eq_mk_of_snd found')
    apart ?_⟩
  have differ : "" = "pk" ↔ "k" = "pk" := by decide
  rw [dropped]
  exact fun _ => List.forall_mem_singleton.mpr differ

end Audit

end MigrationAudit
