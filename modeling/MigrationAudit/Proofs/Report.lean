import Mathlib.Data.List.Induction
import Mathlib.Data.List.Nodup
import MigrationAudit.Report

/-!
# Groups of issues

Grouping lists every file where it first occurs, and with it the issues of the file as they follow
one another (`Report.groups_eq`).  So no issue is lost or repeated, and issues that are read off
group by group fall into the same groups again (`Report.groups_partition`).
-/

namespace MigrationAudit.Report

/-- The files of issues, each where it first occurs. -/
def files (issues : List Issue) : List String := (issues.map Issue.file).eraseDups

/-! ## Files in order -/

theorem mem_files_iff {issues : List Issue} {f : String} :
    f ∈ files issues ↔ ∃ i ∈ issues, i.file = f := by
  rw [files, List.mem_eraseDups, List.mem_map]

theorem files_concat (issues : List Issue) (i : Issue) :
    files (issues ++ [i]) =
      if i.file ∈ files issues then files issues else files issues ++ [i.file] := by
  simp only [files, List.map_append, List.map_cons, List.map_nil, List.eraseDups_append,
    List.mem_eraseDups, List.removeAll, List.filter_cons, List.filter_nil, List.elem_eq_mem]
  by_cases h : i.file ∈ issues.map Issue.file
  · rw [if_pos h, decide_eq_true h]
    exact List.append_nil _
  · rw [if_neg h, decide_eq_false h]
    rfl

/-- A file that is listed before another one occurs before it. -/
theorem pairwise_files (issues : List Issue) :
    (files issues).Pairwise fun f f' =>
      (issues.map Issue.file).idxOf f < (issues.map Issue.file).idxOf f' := by
  induction issues using List.reverseRecOn with
  | nil => exact List.Pairwise.nil
  | append_singleton issues i ih =>
    have here : ∀ f ∈ files issues,
        ((issues ++ [i]).map Issue.file).idxOf f = (issues.map Issue.file).idxOf f := by
      intro f hf
      rw [List.map_append, List.idxOf_append_of_mem (List.mem_eraseDups.mp hf)]
    have earlier : (files issues).Pairwise fun f f' =>
        ((issues ++ [i]).map Issue.file).idxOf f < ((issues ++ [i]).map Issue.file).idxOf f' := by
      refine ih.imp_of_mem fun {f f'} hf hf' hlt => ?_
      rwa [here f hf, here f' hf']
    rw [files_concat]
    split
    · exact earlier
    · next hi =>
      refine List.pairwise_append.mpr ⟨earlier, List.pairwise_singleton _ _, fun f hf f' hf' => ?_⟩
      obtain rfl := List.mem_singleton.mp hf'
      have hi' : i.file ∉ issues.map Issue.file := mt List.mem_eraseDups.mpr hi
      have last : ((issues ++ [i]).map Issue.file).idxOf i.file = issues.length := by
        rw [List.map_append, List.idxOf_append, if_neg hi']
        simp
      rw [here f hf, last, ← List.length_map Issue.file]
      exact List.idxOf_lt_length_iff.mpr (List.mem_eraseDups.mp hf)

theorem nodup_files (issues : List Issue) : (files issues).Nodup :=
  (pairwise_files issues).imp fun hlt heq => absurd (heq ▸ hlt) (Nat.lt_irrefl _)

/-! ## Groups by their files -/

theorem groups_concat (issues : List Issue) (i : Issue) :
    groups (issues ++ [i]) = addTo i (groups issues) := by
  simp [groups]

theorem addTo_of_not_mem {i : Issue} : ∀ {gs : List (String × List Issue)},
    i.file ∉ gs.map (·.1) → addTo i gs = gs ++ [(i.file, [i])]
  | [], _ => rfl
  | g :: gs, h => by
    rw [List.map_cons, List.mem_cons, not_or] at h
    rw [addTo, if_neg (Ne.symm h.1), addTo_of_not_mem h.2, List.cons_append]

theorem addTo_of_mem {i : Issue} {contents : String → List Issue} : ∀ {fs : List String},
    fs.Nodup → i.file ∈ fs → addTo i (fs.map fun f => (f, contents f)) =
      fs.map fun f => (f, contents f ++ if i.file = f then [i] else [])
  | [], _, h => absurd h List.not_mem_nil
  | f :: fs, hd, h => by
    obtain ⟨hf, hd⟩ := List.nodup_cons.mp hd
    rw [List.map_cons, List.map_cons, addTo]
    by_cases hi : f = i.file
    · have rest : (fs.map fun f' => (f', contents f')) =
          fs.map fun f' => (f', contents f' ++ if i.file = f' then [i] else []) := by
        refine List.map_congr_left fun f' hf' => ?_
        have hne : i.file ≠ f' := fun heq => hf (hi.trans heq ▸ hf')
        rw [if_neg hne, List.append_nil]
      rw [if_pos hi, if_pos hi.symm, rest]
    · have hmem : i.file ∈ fs := (List.mem_cons.mp h).resolve_left (Ne.symm hi)
      rw [if_neg hi, if_neg (Ne.symm hi), List.append_nil, addTo_of_mem hd hmem]

theorem groups_eq (issues : List Issue) :
    groups issues = (files issues).map fun f => (f, issues.filter (·.file = f)) := by
  induction issues using List.reverseRecOn with
  | nil => rfl
  | append_singleton issues i ih =>
    have split : ∀ f, (issues ++ [i]).filter (·.file = f) =
        issues.filter (·.file = f) ++ if i.file = f then [i] else [] := by
      intro f
      by_cases hf : i.file = f <;> simp [hf]
    simp only [split]
    rw [groups_concat, ih, files_concat]
    by_cases hi : i.file ∈ files issues
    · rw [if_pos hi, addTo_of_mem (nodup_files issues) hi]
    · have new : issues.filter (·.file = i.file) = [] := by
        refine List.filter_eq_nil_iff.mpr fun j hj => ?_
        simpa using fun hji : j.file = i.file => hi (mem_files_iff.mpr ⟨j, hj, hji⟩)
      have others : ((files issues).map fun f => (f, issues.filter (·.file = f))) =
          (files issues).map fun f =>
            (f, issues.filter (·.file = f) ++ if i.file = f then [i] else []) := by
        refine List.map_congr_left fun f hf => ?_
        rw [if_neg fun heq : i.file = f => hi (heq ▸ hf), List.append_nil]
      rw [if_neg hi, addTo_of_not_mem (by simpa [Function.comp_def] using hi), others,
        List.map_append, List.map_singleton, new, if_pos rfl, List.nil_append]

/-! ## Issues read off group by group -/

theorem perm_addTo (i : Issue) : ∀ gs : List (String × List Issue),
    ((addTo i gs).flatMap (·.2)).Perm (gs.flatMap (·.2) ++ [i])
  | [] => .refl _
  | g :: gs => by
    rw [addTo]
    split
    · simp only [List.flatMap_cons, List.append_assoc]
      exact .append_left g.2 List.perm_append_comm
    · simp only [List.flatMap_cons, List.append_assoc]
      exact (perm_addTo i gs).append_left g.2

theorem perm_groups (issues : List Issue) : ((groups issues).flatMap (·.2)).Perm issues := by
  induction issues using List.reverseRecOn with
  | nil => exact .refl _
  | append_singleton issues i ih =>
    rw [groups_concat]
    exact (perm_addTo i _).trans (ih.append_right [i])

/-- Issues of a file all go to its group, which is the last one. -/
theorem foldl_addTo_group {gs : List (String × List Issue)} {f : String}
    (hf : f ∉ gs.map (·.1)) : ∀ {more : List Issue} (found : List Issue),
    (∀ i ∈ more, i.file = f) →
      more.foldl (fun gs i => addTo i gs) (gs ++ [(f, found)]) = gs ++ [(f, found ++ more)]
  | [], found, _ => by simp
  | i :: more, found, h => by
    rw [List.forall_mem_cons] at h
    have step : ∀ {gs : List (String × List Issue)}, f ∉ gs.map (·.1) →
        addTo i (gs ++ [(f, found)]) = gs ++ [(f, found ++ [i])] := by
      intro gs
      induction gs with
      | nil => simp [addTo, h.1]
      | cons g gs ih =>
        intro hf
        rw [List.map_cons, List.mem_cons, not_or] at hf
        have hg : g.1 ≠ i.file := fun heq => hf.1 (heq.trans h.1).symm
        rw [List.cons_append, addTo, if_neg hg, ih hf.2, List.cons_append]
    rw [List.foldl_cons, step hf, foldl_addTo_group hf _ h.2, List.append_assoc,
      List.singleton_append]

/-- Groups of distinct files, none of them empty, are those of their issues. -/
theorem groups_flatMap {gs : List (String × List Issue)} (distinct : (gs.map (·.1)).Nodup)
    (nonempty : ∀ g ∈ gs, g.2 ≠ []) (owned : ∀ g ∈ gs, ∀ i ∈ g.2, i.file = g.1) :
    groups (gs.flatMap (·.2)) = gs := by
  induction gs using List.reverseRecOn with
  | nil => rfl
  | append_singleton gs g ih =>
    obtain ⟨f, _ | ⟨i, more⟩⟩ := g
    · exact absurd rfl (nonempty (f, []) (by simp))
    rw [List.map_append, List.map_singleton] at distinct
    have hd : (gs.map (·.1)).Nodup := (List.nodup_append.mp distinct).1
    have hf : f ∉ gs.map (·.1) := fun hf =>
      (List.nodup_append.mp distinct).2.2 f hf f List.mem_cons_self rfl
    have before := ih hd (fun g hg => nonempty g (List.mem_append_left _ hg))
      fun g hg => owned g (List.mem_append_left _ hg)
    have hown : ∀ j ∈ i :: more, j.file = f :=
      owned (f, i :: more) (List.mem_append_right _ List.mem_cons_self)
    rw [List.forall_mem_cons] at hown
    rw [groups] at before ⊢
    rw [List.flatMap_append, List.foldl_append, before, List.flatMap_singleton, List.foldl_cons,
      addTo_of_not_mem (hown.1.symm ▸ hf), hown.1, foldl_addTo_group hf [i] hown.2,
      List.singleton_append]

/-- Groups are of distinct files, exactly those of the issues and in the order in which these first
occur; a group is not empty and has the issues of its file as they follow one another.  So the
groups together have every issue as often as it occurs, and grouping these again changes nothing. -/
theorem groups_partition (issues : List Issue) :
    let gs := groups issues
    let listed := gs.map (·.1)
    listed.Nodup ∧
    (∀ f, f ∈ listed ↔ ∃ i ∈ issues, i.file = f) ∧
    listed.Pairwise (fun f f' =>
      (issues.map Issue.file).idxOf f < (issues.map Issue.file).idxOf f') ∧
    (∀ g ∈ gs, g.2 ≠ [] ∧ g.2 = issues.filter (·.file = g.1)) ∧
    (gs.flatMap (·.2)).Perm issues ∧
    groups (gs.flatMap (·.2)) = gs := by
  intro gs listed
  have hlisted : listed = files issues := by
    show (groups issues).map (·.1) = _
    rw [groups_eq, List.map_map]
    exact List.map_id _
  have distinct : listed.Nodup := hlisted ▸ nodup_files issues
  have content : ∀ g ∈ gs, g.2 ≠ [] ∧ g.2 = issues.filter (·.file = g.1) := by
    intro g hg
    rw [show gs = _ from groups_eq issues] at hg
    obtain ⟨f, hf, rfl⟩ := List.mem_map.mp hg
    obtain ⟨i, hi, hif⟩ := mem_files_iff.mp hf
    exact ⟨List.ne_nil_of_mem (List.mem_filter.mpr ⟨hi, by simpa using hif⟩), rfl⟩
  have owned : ∀ g ∈ gs, ∀ i ∈ g.2, i.file = g.1 := by
    intro g hg i hi
    rw [(content g hg).2] at hi
    simpa using (List.mem_filter.mp hi).2
  refine ⟨distinct, fun f => ?_, ?_, content, perm_groups issues, ?_⟩
  · rw [hlisted, mem_files_iff]
  · rw [hlisted]
    exact pairwise_files issues
  · exact groups_flatMap distinct (fun g hg => (content g hg).1) owned

end MigrationAudit.Report
