import Mathlib.Algebra.GroupWithZero.Nat
import TaintFlow.Finding.Basic
import TaintFlow.Proofs.Summary.Published

/-!
# One finding for each subject

Deduplication puts the findings of one subject into one group and lets one of them stand for it.  So the
subjects are the same before and after (`exists_subject_deduplicate_iff`), every finding in the list still
stands for as many as its group had members, and no finding is counted twice or not at all
(`sum_collapsed_deduplicate`).
-/

namespace TaintFlow

namespace Finding

variable {entries : List (Subject × Finding)} {groups : List (Subject × List Finding)}
  {fs found : List Finding} {subject : Subject} {f : Finding}

/-! ### Groups -/

/-- What some groups hold of the findings that were put into them. -/
structure Grouped (entries : List (Subject × Finding)) (groups : List (Subject × List Finding)) :
    Prop where
  members : ∀ subject f,
    (∃ fs, (subject, fs) ∈ groups ∧ f ∈ fs) ↔ (subject, f) ∈ entries
  inhabited : ∀ subject fs, (subject, fs) ∈ groups → fs ≠ []
  count : (groups.map (fun g => g.2.length)).sum = entries.length

theorem mem_group {entry : Subject × Finding} :
    (∃ fs, (subject, fs) ∈ group groups entry ∧ f ∈ fs) ↔
      (∃ fs, (subject, fs) ∈ groups ∧ f ∈ fs) ∨ (subject, f) = entry := by
  obtain ⟨at', g⟩ := entry
  induction groups with
  | nil => simp [group]
  | cons head rest ih =>
    obtain ⟨first, fs⟩ := head
    rw [group]
    split
    · next he =>
      subst he
      simp only [List.mem_cons, Prod.mk.injEq, or_and_right, exists_or, and_assoc, exists_and_left,
        exists_eq_left, List.mem_append, List.not_mem_nil, or_false, and_or_left]
      exact or_right_comm
    · simp only [List.mem_cons, or_and_right, exists_or, ih, or_assoc]

theorem ne_nil_of_mem_group {entry : Subject × Finding}
    (h : ∀ subject fs, (subject, fs) ∈ groups → fs ≠ []) :
    ∀ subject fs, (subject, fs) ∈ group groups entry → fs ≠ [] := by
  intro subject fs hmem
  obtain ⟨f, hf⟩ : ∃ f, f ∈ fs := by
    induction groups with
    | nil =>
      rw [group, List.mem_singleton] at hmem
      cases hmem
      exact ⟨entry.2, List.mem_singleton_self _⟩
    | cons head rest ih =>
      have hrest : ∀ subject fs, (subject, fs) ∈ rest → fs ≠ [] := fun s l hl =>
        h s l (List.mem_cons_of_mem head hl)
      rw [group] at hmem
      split at hmem
      · rcases List.mem_cons.1 hmem with he | hmem
        · cases he
          exact ⟨entry.2, List.mem_append_right _ (List.mem_singleton_self _)⟩
        · exact List.exists_mem_of_ne_nil fs (hrest subject fs hmem)
      · rcases List.mem_cons.1 hmem with he | hmem
        · cases he
          exact List.exists_mem_of_ne_nil _ (h _ _ List.mem_cons_self)
        · exact ih hrest hmem
  exact List.ne_nil_of_mem hf

theorem sum_length_group (groups : List (Subject × List Finding)) (entry : Subject × Finding) :
    ((group groups entry).map (fun g => g.2.length)).sum =
      (groups.map (fun g => g.2.length)).sum + 1 := by
  induction groups with
  | nil => rfl
  | cons head rest ih =>
    rw [group]
    split
    · simp only [List.map_cons, List.sum_cons, List.length_append, List.length_singleton]
      omega
    · simp only [List.map_cons, List.sum_cons, ih]
      omega

theorem Grouped.group (h : Grouped entries groups) (entry : Subject × Finding) :
    Grouped (entries ++ [entry]) (group groups entry) where
  members subject f := by
    rw [mem_group, h.members, List.mem_append, List.mem_singleton]
  inhabited := ne_nil_of_mem_group h.inhabited
  count := by
    rw [sum_length_group, h.count, List.length_append, List.length_singleton]

/-- Putting findings into groups loses none. -/
theorem grouped_foldl (entries : List (Subject × Finding)) :
    Grouped entries (entries.foldl Finding.group []) := by
  have hfold : ∀ (rest before : List (Subject × Finding)) (groups : List (Subject × List Finding)),
      Grouped before groups → Grouped (before ++ rest) (rest.foldl Finding.group groups) := by
    intro rest
    induction rest with
    | nil =>
      intro before groups h
      rw [List.append_nil]
      exact h
    | cons entry rest ih =>
      intro before groups h
      have hcons : before ++ entry :: rest = before ++ [entry] ++ rest := by simp
      rw [hcons]
      exact ih _ _ (h.group entry)
  exact hfold entries [] [] ⟨by simp, by simp, rfl⟩

/-! ### The finding that stands for a group -/

theorem exists_collapse (h : fs ≠ []) : ∃ f ∈ fs, ∃ related,
    collapse fs = some { f with collapsed := fs.length, related := related } := by
  unfold collapse
  have hperm := Insertion.sort_perm (fun a b : Finding => decide (a.groupOrder? b = some .lt)) fs
  split
  · next hnil =>
    rw [hnil] at hperm
    exact absurd hperm.symm.eq_nil h
  · next best others hcons =>
    rw [hcons] at hperm
    exact ⟨best, hperm.subset List.mem_cons_self, _, rfl⟩

/-- What becomes of groups none of which is empty: one finding for each. -/
theorem sum_collapsed_collapse {groups : List (Subject × List Finding)}
    (h : ∀ subject fs, (subject, fs) ∈ groups → fs ≠ []) :
    ((groups.filterMap (fun (_, fs) => collapse fs)).map Finding.collapsed).sum =
      (groups.map (fun g => g.2.length)).sum := by
  induction groups with
  | nil => rfl
  | cons head rest ih =>
    obtain ⟨f, -, related, hf⟩ := exists_collapse (h head.1 head.2 List.mem_cons_self)
    have hrest := ih fun subject fs hmem => h subject fs (List.mem_cons_of_mem head hmem)
    simp only [List.filterMap_cons, hf, List.map_cons, List.sum_cons, hrest]

/-! ### Deduplication -/

theorem mem_entries_iff (h : fs.mapM (fun f => do return (← f.subject, f)) = .ok entries) :
    (subject, f) ∈ entries ↔ f ∈ fs ∧ f.subject = .ok subject := by
  rw [Result.mem_iff_of_mapM h]
  constructor
  · rintro ⟨g, hg, hpair⟩
    obtain ⟨at', hsubject, hpair⟩ := Result.exists_of_bind_eq_ok hpair
    cases hpair
    exact ⟨hg, hsubject⟩
  · rintro ⟨hf, hsubject⟩
    refine ⟨f, hf, ?_⟩
    rw [hsubject]
    rfl

/-- A deduplicated list is made of groups that hold each finding once. -/
theorem exists_grouped_of_deduplicate (h : deduplicate fs = .ok found) :
    ∃ entries groups, Grouped entries groups ∧ entries.length = fs.length ∧
      (∀ subject f, (subject, f) ∈ entries ↔ f ∈ fs ∧ f.subject = .ok subject) ∧
      found = groups.filterMap (fun (_, fs) => collapse fs) := by
  obtain ⟨entries, hentries, h⟩ := Result.exists_of_bind_eq_ok h
  refine ⟨entries, _, grouped_foldl entries, (Result.forall₂_of_mapM hentries).length_eq.symm,
    fun subject f => mem_entries_iff hentries, ?_⟩
  exact (Except.ok.inj h).symm

/-- Every finding that is left is one of the list, but for what it stands for. -/
theorem exists_mem_of_mem_deduplicate (h : deduplicate fs = .ok found) (hf : f ∈ found) :
    ∃ g ∈ fs, ∃ collapsed related, f = { g with collapsed := collapsed, related := related } := by
  obtain ⟨entries, groups, hgrouped, -, hentries, rfl⟩ := exists_grouped_of_deduplicate h
  obtain ⟨⟨subject, members⟩, hgroup, hcollapse⟩ := List.mem_filterMap.1 hf
  obtain ⟨g, hg, related, hsome⟩ := exists_collapse (hgrouped.inhabited subject members hgroup)
  have hmem := ((hentries subject g).1 ((hgrouped.members subject g).1 ⟨members, hgroup, hg⟩)).1
  exact ⟨g, hmem, _, related, (Option.some.inj (hsome.symm.trans hcollapse)).symm⟩

/-- **Deduplication neither drops a subject nor makes one up.** -/
theorem exists_subject_deduplicate_iff (h : deduplicate fs = .ok found) (subject : Subject) :
    (∃ f ∈ found, f.subject = .ok subject) ↔ ∃ f ∈ fs, f.subject = .ok subject := by
  constructor
  · rintro ⟨f, hf, hsubject⟩
    obtain ⟨g, hg, collapsed, related, rfl⟩ := exists_mem_of_mem_deduplicate h hf
    exact ⟨g, hg, hsubject⟩
  · rintro ⟨f, hf, hsubject⟩
    obtain ⟨entries, groups, hgrouped, -, hentries, rfl⟩ := exists_grouped_of_deduplicate h
    obtain ⟨members, hgroup, -⟩ :=
      (hgrouped.members subject f).2 ((hentries subject f).2 ⟨hf, hsubject⟩)
    obtain ⟨g, hg, related, hsome⟩ := exists_collapse (hgrouped.inhabited subject members hgroup)
    refine ⟨_, List.mem_filterMap.2 ⟨_, hgroup, hsome⟩, ?_⟩
    exact ((hentries subject g).1 ((hgrouped.members subject g).1 ⟨members, hgroup, hg⟩)).2

/-- **Every finding is counted once.** -/
theorem sum_collapsed_deduplicate (h : deduplicate fs = .ok found) :
    (found.map Finding.collapsed).sum = fs.length := by
  obtain ⟨entries, groups, hgrouped, hlength, -, rfl⟩ := exists_grouped_of_deduplicate h
  rw [sum_collapsed_collapse hgrouped.inhabited, hgrouped.count, hlength]

end Finding

end TaintFlow
