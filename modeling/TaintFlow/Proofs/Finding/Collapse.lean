import TaintFlow.Proofs.Finding.Standing
import TaintFlow.Proofs.Label
import TaintFlow.Proofs.Scan.Dedup

/-!
# What a deduplicated finding stands for

The group of a subject holds the findings about it in the order in which they came (`lookup_foldl_group`), and its
best finding stands for it: with the highest confidence, the shortest of the paths that have it and the least of
those, beside the paths of all others (`StandsFor`).  So deduplication leaves one finding for each subject, and
what it says does not depend on the order of the candidates.
-/

namespace TaintFlow

namespace Finding

variable {fs fs' : List Finding} {entries : List (Subject × Finding)} {groups : List (Subject × List Finding)}
  {subject : Subject} {f g : Finding}

/-! ### Groups by subject -/

theorem lookup_group (groups : List (Subject × List Finding)) (entry : Subject × Finding) (subject : Subject) :
    (group groups entry).lookup subject =
      if subject = entry.1 then some ((groups.lookup subject).getD [] ++ [entry.2])
      else groups.lookup subject := by
  induction groups with
  | nil =>
    rw [group, List.lookup_cons]
    by_cases h : subject = entry.1
    · simp [h]
    · simp [h, beq_false_of_ne h]
  | cons head rest ih =>
    obtain ⟨first, members⟩ := head
    rw [group]
    by_cases hfirst : first = entry.1
    · rw [if_pos hfirst, List.lookup_cons, List.lookup_cons]
      by_cases h : subject = entry.1
      · simp [h, hfirst]
      · simp [h, hfirst, beq_false_of_ne h]
    · rw [if_neg hfirst, List.lookup_cons, List.lookup_cons, ih]
      by_cases h : subject = first
      · have hne : subject ≠ entry.1 := fun he => hfirst (h.symm.trans he)
        simp [h, hfirst]
      · simp [beq_false_of_ne h]

theorem keys_group (groups : List (Subject × List Finding)) (entry : Subject × Finding) :
    (group groups entry).map Prod.fst =
      if entry.1 ∈ groups.map Prod.fst then groups.map Prod.fst else groups.map Prod.fst ++ [entry.1] := by
  induction groups with
  | nil => rfl
  | cons head rest ih =>
    obtain ⟨first, members⟩ := head
    rw [group]
    by_cases hfirst : first = entry.1
    · simp [hfirst]
    · rw [if_neg hfirst, List.map_cons, ih]
      by_cases hrest : entry.1 ∈ rest.map Prod.fst
      · simp [hrest]
      · simp [hrest, Ne.symm hfirst]

def entered (subject : Subject) (entries : List (Subject × Finding)) : List Finding :=
  (entries.filter fun entry => subject = entry.1).map Prod.snd

/-- **The group of a subject holds what was entered for it**, in that order. -/
theorem lookup_foldl_group (entries : List (Subject × Finding)) (subject : Subject) :
    (entries.foldl group []).lookup subject =
      if entered subject entries = [] then none else some (entered subject entries) := by
  induction entries using List.reverseRecOn with
  | nil => rfl
  | append_singleton entries entry ih =>
    have hentered : entered subject (entries ++ [entry]) =
        entered subject entries ++ if subject = entry.1 then [entry.2] else [] := by
      unfold entered
      rw [List.filter_append, List.map_append]
      by_cases h : subject = entry.1 <;> simp [h]
    rw [List.foldl_append, List.foldl_cons, List.foldl_nil, lookup_group, ih, hentered]
    by_cases h : subject = entry.1
    · have hne : entered subject entries ++ [entry.2] ≠ [] :=
        List.append_ne_nil_of_right_ne_nil _ (List.cons_ne_nil _ _)
      rw [if_pos h, if_pos h, if_neg hne]
      by_cases hnil : entered subject entries = [] <;> simp [hnil]
    · rw [if_neg h, if_neg h, List.append_nil]

theorem nodup_keys_foldl_group (entries : List (Subject × Finding)) :
    ((entries.foldl group []).map Prod.fst).Nodup := by
  refine List.foldlRecOn (motive := fun groups : List (Subject × List Finding) => (groups.map Prod.fst).Nodup)
    entries _ List.nodup_nil fun groups h entry _ => ?_
  rw [keys_group]
  split
  · exact h
  · next hnew =>
    refine List.nodup_append.2 ⟨h, List.nodup_singleton _, fun subject hold other hother he => hnew ?_⟩
    rw [← List.mem_singleton.1 hother, ← he]
    exact hold

/-! ### The finding that stands for a group -/

/-- A finding stands for a group: it is the best of its findings but for what it says of the group, and it says how
many they are and what the paths of the others are. -/
structure StandsFor (g : Finding) (fs : List Finding) : Prop where
  exists_best : ∃ f ∈ fs, g = { f with collapsed := fs.length, related := g.related }
  perm_paths : (g.path :: g.related).Perm (fs.map path)
  not_isAbove : ∀ f ∈ fs, f.confidence.isAbove g.confidence = false
  path_le : ∀ f ∈ fs, f.confidence.equals g.confidence = true →
    g.path.length < f.path.length ∨ g.path.length = f.path.length ∧ (compare g.path f.path).isLE = true

/-- Two findings say the same of their groups. -/
structure SaysSame (g g' : Finding) : Prop where
  confidence : g.confidence.equals g'.confidence = true
  path : g.path = g'.path
  collapsed : g.collapsed = g'.collapsed
  related : g.related = g'.related

theorem collapse_eq (fs : List Finding) : collapse fs = (ranked fs).head?.map fun best =>
    { best with collapsed := fs.length, related := (ranked fs).tail.map path } := by
  unfold collapse
  rw [show Insertion.sort (fun a b : Finding => decide (a.groupOrder? b = some .lt)) fs = ranked fs from rfl]
  cases ranked fs <;> rfl

/-- A finding that is ranked first is not below another in confidence, nor longer or greater in path if both are as
sure. -/
theorem le_of_standing_le {best f : Finding} (hbest : best.confidence.exact ≠ .nan)
    (hf : f.confidence.exact ≠ .nan) (h : (compare best.standing f.standing).isLE = true) :
    f.confidence.isAbove best.confidence = false ∧ (f.confidence.equals best.confidence = true →
      best.path.length < f.path.length ∨
        best.path.length = f.path.length ∧ (compare best.path f.path).isLE = true) := by
  obtain ⟨order, horder⟩ : ∃ order, f.confidence.compare? best.confidence = some order :=
    ⟨_, Amount.compare?_eq hf hbest⟩
  have hstanding := groupOrder?_eq hbest hf
  rw [groupOrder?, orderByConfidence, horder, Option.map_some, Option.some_inj] at hstanding
  rw [← hstanding] at h
  unfold Amount.isAbove Amount.equals
  rw [horder]
  cases order with
  | lt =>
    refine ⟨rfl, fun hequal => ?_⟩
    cases hequal
  | gt => cases h
  | eq =>
    refine ⟨rfl, fun _ => ?_⟩
    rw [Ordering.eq_then] at h
    cases hlength : compare best.path.length f.path.length with
    | lt => exact Or.inl (Nat.compare_eq_lt.1 hlength)
    | eq =>
      rw [hlength, Ordering.eq_then] at h
      exact Or.inr ⟨Nat.compare_eq_eq.1 hlength, h⟩
    | gt =>
      rw [hlength] at h
      cases h

theorem standsFor_of_collapse (h : ∀ f ∈ fs, f.confidence.exact ≠ .nan) (hg : collapse fs = some g) :
    g.StandsFor fs := by
  rw [collapse_eq] at hg
  obtain ⟨best, hbest, rfl⟩ := Option.map_eq_some_iff.1 hg
  obtain ⟨others, hranked⟩ := List.head?_eq_some_iff.1 hbest
  have hperm := ranked_perm fs
  have hsorted := pairwise_standing_ranked h
  rw [hranked] at hperm hsorted ⊢
  have hmem : best ∈ fs := hperm.subset List.mem_cons_self
  -- the best is ranked before all others, and stands as it does itself
  have hle : ∀ f ∈ fs, (compare best.standing f.standing).isLE = true := by
    intro f hf
    rcases List.mem_cons.1 (hperm.symm.subset hf) with rfl | hf
    · rw [Std.ReflOrd.compare_self]
      rfl
    · exact (List.pairwise_cons.1 hsorted).1 f hf
  have hbetter := fun f hf => le_of_standing_le (h best hmem) (h f hf) (hle f hf)
  exact ⟨⟨best, hmem, rfl⟩, hperm.map path, fun f hf => (hbetter f hf).1, fun f hf => (hbetter f hf).2⟩

theorem equals_of_standing_eq {f f' : Finding} (hf : f.confidence.exact ≠ .nan) (hf' : f'.confidence.exact ≠ .nan)
    (h : f.standing = f'.standing) : f.confidence.equals f'.confidence = true := by
  have hreach : f.confidence.exact.reach = f'.confidence.exact.reach := neg_inj.1 (congrArg Standing.reach h)
  have hunits : f.confidence.exact.units = f'.confidence.exact.units := neg_inj.1 (congrArg Standing.units h)
  unfold Amount.equals
  rw [Amount.compare?_eq hf hf', hreach, hunits, Std.ReflOrd.compare_self, Std.ReflOrd.compare_self]
  rfl

/-- **What is said of a group does not depend on the order of its findings.** -/
theorem saysSame_of_collapse (h : ∀ f ∈ fs, f.confidence.exact ≠ .nan) (hperm : fs'.Perm fs) {g' : Finding}
    (hg : collapse fs = some g) (hg' : collapse fs' = some g') : g.SaysSame g' := by
  have hstandings := map_standing_ranked_perm h hperm
  have hmem : ∀ {f}, f ∈ ranked fs' → f ∈ fs := fun hf => hperm.subset ((ranked_perm fs').subset hf)
  rw [collapse_eq] at hg hg'
  obtain ⟨best, hbest, rfl⟩ := Option.map_eq_some_iff.1 hg
  obtain ⟨best', hbest', rfl⟩ := Option.map_eq_some_iff.1 hg'
  obtain ⟨others, hranked⟩ := List.head?_eq_some_iff.1 hbest
  obtain ⟨others', hranked'⟩ := List.head?_eq_some_iff.1 hbest'
  rw [hranked, hranked'] at hstandings ⊢
  obtain ⟨hfirst, hothers⟩ := List.cons.inj hstandings
  have hpaths : others'.map path = others.map path := by
    have hmap : ∀ l : List Finding, l.map path = (l.map standing).map Standing.path := fun l => by
      rw [List.map_map]
      rfl
    rw [hmap, hmap, hothers]
  refine ⟨equals_of_standing_eq (h best ((ranked_perm fs).subset (List.mem_of_mem_head? hbest)))
    (h best' (hmem (List.mem_of_mem_head? hbest'))) hfirst.symm, ?_, hperm.length_eq.symm, hpaths.symm⟩
  exact (congrArg Standing.path hfirst).symm

/-! ### Well-formed candidates -/

/-- A finding as flows make it: its label has an origin, the argument is given by its position, the path names
nodes, and the confidence is a number. -/
structure WellFormed (f : Finding) : Prop where
  origin : ∃ o, f.origin = .ok o
  argIndex : ∃ i, f.sink.argIndex = .whole i
  path : ∀ node ∈ f.path, ∃ name, node = .text name
  confidence : f.confidence.exact ≠ .nan

theorem WellFormed.exists_subject (h : f.WellFormed) : ∃ subject, f.subject = .ok subject := by
  obtain ⟨o, ho⟩ := h.origin
  obtain ⟨i, hi⟩ := h.argIndex
  rw [subject, ho, hi]
  exact ⟨_, rfl⟩

theorem WellFormed.competes (hf : f.WellFormed) (hg : g.WellFormed) : f.competes g = true := by
  rw [Finding.competes, Atom.areComparable_of_texts hf.path hg.path, Bool.or_true]

theorem WellFormed.isListable (hf : f.WellFormed) (hg : g.WellFormed) : f.isListable g = true := by
  obtain ⟨i, hi⟩ := hf.argIndex
  obtain ⟨j, hj⟩ := hg.argIndex
  have hcomparable : Atom.areComparable (f.sink.argIndex :: f.path) (g.sink.argIndex :: g.path) = true := by
    rw [hi, hj, Atom.areComparable, Atom.areComparable_of_texts hf.path hg.path]
    split <;> rfl
  rw [Finding.isListable, hcomparable, Bool.or_true]

theorem allPairs_of_forall {related : Finding → Finding → Bool} (h : ∀ f ∈ fs, ∀ g ∈ fs, related f g = true) :
    allPairs related fs = true := by
  induction fs with
  | nil => rfl
  | cons f fs ih =>
    rw [allPairs, ih fun f hf g hg => h f (List.mem_cons_of_mem _ hf) g (List.mem_cons_of_mem _ hg), Bool.and_true,
      List.all_eq_true]
    exact fun g hg => h f List.mem_cons_self g (List.mem_cons_of_mem _ hg)

theorem exists_list (h : ∀ f ∈ fs, f.WellFormed) : ∃ listed, list fs = .ok listed ∧ listed.Perm fs := by
  refine ⟨sort fs, if_pos (allPairs_of_forall fun f hf g hg => (h f hf).isListable (h g hg)), ?_⟩
  exact Insertion.sort_perm _ fs

/-! ### Deduplication -/

def about (subject : Subject) (fs : List Finding) : List Finding :=
  fs.filter fun f => f.subject.toOption = some subject

theorem mem_about_iff : f ∈ about subject fs ↔ f ∈ fs ∧ f.subject = .ok subject := by
  rw [about, List.mem_filter, decide_eq_true_iff]
  refine and_congr_right fun _ => ⟨Result.eq_ok_of_toOption, fun h => ?_⟩
  rw [h]
  rfl

theorem entered_eq_about (h : fs.mapM (fun f => do return (← f.subject, f)) = .ok entries) (subject : Subject) :
    entered subject entries = about subject fs := by
  have hall := Result.forall₂_of_mapM h
  clear h
  induction hall with
  | nil => rfl
  | @cons f entry fs entries hentry _ ih =>
    obtain ⟨at', hsubject, hpair⟩ := Result.exists_of_bind_eq_ok hentry
    obtain rfl := Except.ok.inj hpair
    unfold entered about at ih ⊢
    rw [List.filter_cons, List.filter_cons, hsubject]
    by_cases hat : subject = at'
    · subst hat
      simp [Except.toOption, ih]
    · simp [Except.toOption, hat, Ne.symm hat, ih]

/-- **A list of findings is what deduplication has to leave of another:** one finding for each subject that occurs,
and each stands for all findings about its subject. -/
structure Condenses (found fs : List Finding) : Prop where
  subjects : ∃ subjects : List Subject, subjects.Nodup ∧ found.map Finding.subject = subjects.map Except.ok ∧
    ∀ s, s ∈ subjects ↔ ∃ f ∈ fs, f.subject = .ok s
  standsFor : ∀ g ∈ found, ∀ s, g.subject = .ok s → g.StandsFor (about s fs)

/-- The groups of a list: one for each subject that occurs, with all findings about it. -/
theorem mem_foldl_group_iff (h : fs.mapM (fun f => do return (← f.subject, f)) = .ok entries)
    {members : List Finding} : (subject, members) ∈ entries.foldl group [] ↔
      members = about subject fs ∧ members ≠ [] := by
  rw [mem_iff_lookup_eq_some (nodup_keys_foldl_group entries), lookup_foldl_group, entered_eq_about h]
  split
  · next hnil => exact iff_of_false nofun fun ⟨he, hne⟩ => hne (he.trans hnil)
  · next hne =>
    rw [Option.some_inj, eq_comm]
    exact ⟨fun he => ⟨he, he ▸ hne⟩, And.left⟩

theorem exists_collapse_of_about (h : ∀ f ∈ fs, f.WellFormed) (hne : about subject fs ≠ []) :
    ∃ g, collapse (about subject fs) = some g ∧ g.subject = .ok subject ∧ g.WellFormed := by
  obtain ⟨f, hf, related, hg⟩ := exists_collapse hne
  obtain ⟨hfs, hsubject⟩ := mem_about_iff.1 hf
  exact ⟨_, hg, hsubject, ⟨(h f hfs).origin, (h f hfs).argIndex, (h f hfs).path, (h f hfs).confidence⟩⟩

theorem map_subject_filterMap
    (h : ∀ entry ∈ groups, ∃ g, collapse entry.2 = some g ∧ g.subject = .ok entry.1) :
    (groups.filterMap fun (_, fs) => collapse fs).map Finding.subject =
      (groups.map Prod.fst).map Except.ok := by
  induction groups with
  | nil => rfl
  | cons entry rest ih =>
    obtain ⟨g, hg, hsubject⟩ := h entry List.mem_cons_self
    have hrest := ih fun other ho => h other (List.mem_cons_of_mem entry ho)
    simp only [List.filterMap_cons, hg, List.map_cons, hsubject, hrest]

/-- Well-formed findings can be deduplicated: what is left stands for the groups. -/
theorem exists_deduplicate? (h : ∀ f ∈ fs, f.WellFormed) : ∃ found, deduplicate? fs = .ok found ∧
    Condenses found fs ∧ ∀ g ∈ found, g.WellFormed ∧ ∃ s, g.subject = .ok s ∧ collapse (about s fs) = some g := by
  obtain ⟨entries, hentries⟩ := Result.exists_mapM_eq_ok (f := fun f : Finding => do return (← f.subject, f))
    (l := fs) fun f hf => by
      obtain ⟨s, hs⟩ := (h f hf).exists_subject
      rw [hs]
      exact ⟨_, rfl⟩
  have hgroups : ∀ {s members}, (s, members) ∈ entries.foldl group [] ↔ members = about s fs ∧ members ≠ [] :=
    mem_foldl_group_iff hentries
  have hkeys := nodup_keys_foldl_group entries
  have hdedup : deduplicate? fs = .ok ((entries.foldl group []).filterMap fun (_, fs) => collapse fs) := by
    unfold deduplicate? deduplicate
    rw [hentries]
    refine if_pos (List.all_eq_true.2 ?_)
    rintro ⟨s, members⟩ hgroup
    obtain ⟨rfl, -⟩ := hgroups.1 hgroup
    exact allPairs_of_forall fun f hf g hg =>
      (h f (mem_about_iff.1 hf).1).competes (h g (mem_about_iff.1 hg).1)
  generalize entries.foldl group [] = groups at hgroups hkeys hdedup
  have hcollapse : ∀ entry ∈ groups, ∃ g, collapse entry.2 = some g ∧ g.subject = .ok entry.1 ∧ g.WellFormed ∧
      entry.2 = about entry.1 fs := by
    rintro ⟨s, members⟩ hgroup
    obtain ⟨rfl, hne⟩ := hgroups.1 hgroup
    obtain ⟨g, hg, hsubject, hwell⟩ := exists_collapse_of_about h hne
    exact ⟨g, hg, hsubject, hwell, rfl⟩
  have hleft : ∀ g ∈ groups.filterMap (fun (_, fs) => collapse fs), g.WellFormed ∧
      ∃ s, g.subject = .ok s ∧ collapse (about s fs) = some g := by
    intro g hg
    obtain ⟨⟨s, members⟩, hgroup, hsome⟩ := List.mem_filterMap.1 hg
    obtain ⟨g', hg', hsubject, hwell, hmembers⟩ := hcollapse _ hgroup
    obtain rfl := Option.some.inj (hg'.symm.trans hsome)
    exact ⟨hwell, s, hsubject, hmembers ▸ hg'⟩
  refine ⟨_, hdedup, ⟨⟨groups.map Prod.fst, hkeys, ?_, fun s => ?_⟩, fun g hg s hs => ?_⟩, hleft⟩
  · exact map_subject_filterMap fun entry hentry =>
      let ⟨g, hg, hsubject, _⟩ := hcollapse entry hentry
      ⟨g, hg, hsubject⟩
  · constructor
    · intro hs
      obtain ⟨⟨s, members⟩, hgroup, rfl⟩ := List.mem_map.1 hs
      obtain ⟨rfl, hne⟩ := hgroups.1 hgroup
      obtain ⟨f, hf⟩ := List.exists_mem_of_ne_nil _ hne
      exact ⟨f, mem_about_iff.1 hf⟩
    · rintro ⟨f, hf, hs⟩
      have hne : about s fs ≠ [] := List.ne_nil_of_mem (mem_about_iff.2 ⟨hf, hs⟩)
      exact List.mem_map.2 ⟨(s, about s fs), hgroups.2 ⟨rfl, hne⟩, rfl⟩
  · obtain ⟨-, s', hs', hsome⟩ := hleft g hg
    obtain rfl := Except.ok.inj (hs.symm.trans hs')
    exact standsFor_of_collapse (fun f hf => (h f (mem_about_iff.1 hf).1).confidence) hsome

/-- **Deduplication neither loses nor duplicates a path, whatever the order of the candidates.** -/
theorem deduplicate?_condenses (h : ∀ f ∈ fs, f.WellFormed) :
    ∃ found listed, deduplicate? fs = .ok found ∧ Condenses found fs ∧ list found = .ok listed ∧
      listed.Perm found ∧
      ∀ fs' : List Finding, fs'.Perm fs → ∃ found' listed', deduplicate? fs' = .ok found' ∧ Condenses found' fs' ∧
        list found' = .ok listed' ∧ listed'.Perm found' ∧
          ∀ g ∈ listed, ∀ g' ∈ listed', g'.subject = g.subject → g.SaysSame g' := by
  have hall : ∀ fs : List Finding, (∀ f ∈ fs, f.WellFormed) → ∃ found listed, deduplicate? fs = .ok found ∧
      Condenses found fs ∧ list found = .ok listed ∧ listed.Perm found ∧
        ∀ g ∈ listed, ∃ s, g.subject = .ok s ∧ collapse (about s fs) = some g := by
    intro fs h
    obtain ⟨found, hfound, hcondenses, hleft⟩ := exists_deduplicate? h
    obtain ⟨listed, hlisted, hperm⟩ := exists_list fun g hg => (hleft g hg).1
    exact ⟨found, listed, hfound, hcondenses, hlisted, hperm, fun g hg => (hleft g (hperm.subset hg)).2⟩
  obtain ⟨found, listed, hfound, hcondenses, hlisted, hperm, hleft⟩ := hall fs h
  refine ⟨found, listed, hfound, hcondenses, hlisted, hperm, fun fs' hfs => ?_⟩
  obtain ⟨found', listed', hfound', hcondenses', hlisted', hperm', hleft'⟩ :=
    hall fs' fun f hf => h f (hfs.subset hf)
  refine ⟨found', listed', hfound', hcondenses', hlisted', hperm', fun g hg g' hg' hsame => ?_⟩
  obtain ⟨s, hs, hsome⟩ := hleft g hg
  obtain ⟨s', hs', hsome'⟩ := hleft' g' hg'
  obtain rfl := Except.ok.inj (hs'.symm.trans (hsame.trans hs))
  exact saysSame_of_collapse (fun f hf => (h f (mem_about_iff.1 hf).1).confidence) (hfs.filter _) hsome hsome'

def rival (path : List String) (confidence : Float) : Finding where
  label := ⟨⟨.ofList [.cookie], none, ∅⟩, []⟩
  sink := ⟨"f::use", "f", .text "exec", .whole 0, ⟨.htmlBody, []⟩, none, .whole 0, .text ""⟩
  path := path.map Atom.text
  classification := .insufficient
  severity := .high
  confidence := .real confidence
  steps := []
  unknownHops := []
  reason := ""
  collapsed := 1
  truncated := false
  related := []

theorem wellFormed_rival (path : List String) {confidence : Float} (h : Binary.ofFloat confidence ≠ .nan) :
    (rival path confidence).WellFormed :=
  ⟨⟨.cookie, rfl⟩, ⟨0, rfl⟩, fun node hnode => by
    obtain ⟨name, -, rfl⟩ := List.mem_map.1 hnode
    exact ⟨name, rfl⟩, h⟩

/-- Two paths as sure as each other, and a longer one that is surer. -/
def rivals : List Finding :=
  [rival ["f::b", "f::use"] 0.5, rival ["f::a", "f::mid", "f::use"] 0.9, rival ["f::a", "f::use"] 0.5]

theorem condenses_rivals : (∀ f ∈ rivals, f.WellFormed) ∧ ∃ found, deduplicate? rivals = .ok found ∧
    Condenses found rivals ∧
      found.map Finding.path = [["f::a", "f::mid", "f::use"].map Atom.text] ∧
        found.map Finding.related = [[["f::a", "f::use"].map Atom.text, ["f::b", "f::use"].map Atom.text]] := by
  have hwell : ∀ f ∈ rivals, f.WellFormed := by
    refine List.forall_mem_cons.2 ⟨wellFormed_rival _ (by decide +kernel), ?_⟩
    refine List.forall_mem_cons.2 ⟨wellFormed_rival _ (by decide +kernel), ?_⟩
    exact List.forall_mem_singleton.2 (wellFormed_rival _ (by decide +kernel))
  obtain ⟨found, -, hfound, hcondenses, -⟩ := deduplicate?_condenses hwell
  have hpaths := Result.apply_of_any (r := deduplicate? rivals) (p := fun found =>
    found.map Finding.path = [["f::a", "f::mid", "f::use"].map Atom.text] ∧
      found.map Finding.related = [[["f::a", "f::use"].map Atom.text, ["f::b", "f::use"].map Atom.text]])
    (by decide +kernel) hfound
  obtain ⟨hpath, hrelated⟩ := of_decide_eq_true hpaths
  exact ⟨hwell, found, hfound, hcondenses, hpath, hrelated⟩

end Finding

end TaintFlow
