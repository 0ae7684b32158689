import Mathlib.Data.List.Basic
import TaintFlow.Path.Search
import TaintFlow.Proofs.Collection

/-!
# Distances from an origin

Distances are found level by level.  Up to the level that was reached last they grow by at most one along
an edge (`Levelled`), and each level that adds keys takes away edges to keys that are not reached yet, so
that the levels end in time (`closed_levels`).  A key is then never farther away than a walk to it is long
(`exists_distance_of_walk`).
-/

namespace TaintFlow.FlowGraph

variable {g : FlowGraph} {origin : Origin}

/-- A key is reached from one that an origin enters at, along so many edges. -/
inductive Walk (g : FlowGraph) (origin : Origin) : Nat → String → Prop
  | enter {key : String} : g.carries origin key = true → Walk g origin 0 key
  | step {n : Nat} {e : FlowEdge} : Walk g origin n e.src → e ∈ g.edges → Walk g origin (n + 1) e.dst

/-- What is known of distances up to a level: the keys on it are in the frontier, and what an edge leads
to from below it is at most one farther away. -/
structure Levelled (g : FlowGraph) (level : Nat) (reached : NameMap Nat) (frontier : Names) : Prop where
  bound : ∀ key d, reached.get? key = some d → d ≤ level
  frontier : ∀ key, reached.get? key = some level → key ∈ frontier
  below : ∀ e ∈ g.edges, ∀ d < level, reached.get? e.src = some d →
    ∃ d' ≤ d + 1, reached.get? e.dst = some d'

def unreached (g : FlowGraph) (reached : NameMap Nat) : List FlowEdge :=
  g.edges.toList.filter (fun e => reached.contains e.dst = false)

theorem mem_nextLevel_iff {reached : NameMap Nat} {frontier : Names} {key : String} :
    key ∈ g.nextLevel reached frontier ↔
      ∃ e ∈ g.edges, e.src ∈ frontier ∧ reached.get? e.dst = none ∧ e.dst = key := by
  have hfold : ∀ (edges : List FlowEdge) (found : Names),
      key ∈ edges.foldl (fun found e => if e.src ∈ frontier ∧ reached.contains e.dst = false
        then found.insert e.dst else found) found ↔
      key ∈ found ∨ ∃ e ∈ edges, e.src ∈ frontier ∧ reached.get? e.dst = none ∧ e.dst = key := by
    intro edges
    induction edges with
    | nil => simp
    | cons e rest ih =>
      intro found
      rw [List.foldl_cons, ih, List.exists_mem_cons_iff, ← or_assoc]
      refine or_congr_left ?_
      have hcontains : reached.contains e.dst = false ↔ reached.get? e.dst = none := by
        simp [OrderedMap.contains]
      by_cases hnew : e.src ∈ frontier ∧ reached.contains e.dst = false
      · rw [if_pos hnew, OrderedSet.mem_insert]
        rw [hcontains] at hnew
        simp [hnew, eq_comm, or_comm]
      · rw [if_neg hnew]
        rw [hcontains] at hnew
        exact ⟨Or.inl, fun h => h.resolve_right fun hfound => hnew ⟨hfound.1, hfound.2.1⟩⟩
  exact (hfold _ ∅).trans (or_iff_right (OrderedSet.not_mem_empty key))

theorem get?_setAll (reached : NameMap Nat) (next : Names) (level : Nat) (key : String) :
    (next.toList.foldl (fun m key => m.set key level) reached).get? key =
      if key ∈ next then some level else reached.get? key := by
  have hkeys : ((next.toList.map (fun key => (key, level))).map Prod.fst).Nodup := by
    rw [List.map_map]
    exact (List.map_id _).symm ▸ next.nodup_toList
  have hfold := OrderedMap.get?_foldl_set (next.toList.map (fun key => (key, level))) reached key hkeys
  rw [List.foldl_map, lookup_map_pair] at hfold
  rw [hfold]
  simp only [OrderedSet.mem_def]
  split <;> rfl

theorem Levelled.next {level : Nat} {reached : NameMap Nat} {frontier : Names}
    (h : g.Levelled level reached frontier) :
    g.Levelled (level + 1) ((g.nextLevel reached frontier).toList.foldl
      (fun m key => m.set key (level + 1)) reached) (g.nextLevel reached frontier) := by
  have hold : ∀ {key d}, reached.get? key = some d → key ∉ g.nextLevel reached frontier := by
    intro key d hkey hnext
    obtain ⟨e, -, -, hnone, rfl⟩ := mem_nextLevel_iff.1 hnext
    exact absurd (hnone.symm.trans hkey) nofun
  refine ⟨fun key d hkey => ?_, fun key hkey => ?_, fun e he d hd hsrc => ?_⟩
  · rw [get?_setAll] at hkey
    split at hkey
    · exact (Option.some.inj hkey) ▸ Nat.le_refl _
    · exact Nat.le_succ_of_le (h.bound key d hkey)
  · rw [get?_setAll] at hkey
    split at hkey
    · assumption
    · exact absurd (h.bound key _ hkey) (Nat.not_succ_le_self level)
  · rw [get?_setAll] at hsrc ⊢
    split at hsrc
    · exact absurd (Option.some.inj hsrc) (Nat.ne_of_gt hd)
    · cases hdst : reached.get? e.dst with
      | some d' =>
        rw [if_neg (hold hdst)]
        rcases Nat.lt_or_eq_of_le (Nat.lt_succ_iff.1 hd) with hlt | rfl
        · obtain ⟨d'', hle, hget⟩ := h.below e he d hlt hsrc
          exact ⟨d'', hle, hdst ▸ hget⟩
        · exact ⟨d', Nat.le_succ_of_le (h.bound _ _ hdst), rfl⟩
      | none =>
        rcases Nat.lt_or_eq_of_le (Nat.lt_succ_iff.1 hd) with hlt | rfl
        · obtain ⟨d'', -, hget⟩ := h.below e he d hlt hsrc
          exact absurd (hdst.symm.trans hget) nofun
        · have hnext : e.dst ∈ g.nextLevel reached frontier :=
            mem_nextLevel_iff.2 ⟨e, he, h.frontier _ hsrc, hdst, rfl⟩
          exact ⟨d + 1, Nat.le_refl _, if_pos hnext⟩

theorem length_unreached_lt {reached : NameMap Nat} {frontier : Names} (level : Nat) {key : String}
    (hkey : key ∈ g.nextLevel reached frontier) :
    (g.unreached ((g.nextLevel reached frontier).toList.foldl
      (fun m key => m.set key level) reached)).length < (g.unreached reached).length := by
  obtain ⟨e, he, -, hnone, rfl⟩ := mem_nextLevel_iff.1 hkey
  have hfewer : (g.unreached ((g.nextLevel reached frontier).toList.foldl
      (fun m key => m.set key level) reached)).Sublist (g.unreached reached) := by
    refine List.monotone_filter_right _ fun e' he' => ?_
    simp only [OrderedMap.contains, get?_setAll, decide_eq_true_eq] at he' ⊢
    split at he'
    · cases he'
    · exact decide_eq_true he'
  refine Nat.lt_of_le_of_ne hfewer.length_le fun heq => ?_
  have hbefore : e ∈ g.unreached reached :=
    List.mem_filter.2 ⟨he, by simp [OrderedMap.contains, hnone]⟩
  rw [← hfewer.eq_of_length heq] at hbefore
  have hafter := (List.mem_filter.1 hbefore).2
  simp [OrderedMap.contains, get?_setAll, hkey] at hafter

/-- **Along every edge the distance grows by at most one**, and no distance is changed once it is known. -/
theorem closed_levels {fuel level : Nat} {reached : NameMap Nat} {frontier : Names}
    (h : g.Levelled level reached frontier) (hfuel : (g.unreached reached).length < fuel) :
    (∀ key d, reached.get? key = some d → (g.levels fuel level reached frontier).get? key = some d) ∧
    ∀ e ∈ g.edges, ∀ d, (g.levels fuel level reached frontier).get? e.src = some d →
      ∃ d' ≤ d + 1, (g.levels fuel level reached frontier).get? e.dst = some d' := by
  induction fuel generalizing level reached frontier with
  | zero => exact absurd hfuel (Nat.not_lt_zero _)
  | succ fuel ih =>
    simp only [levels]
    cases hempty : (g.nextLevel reached frontier).isEmpty with
    | true =>
      have hnone := OrderedSet.isEmpty_iff.1 hempty
      refine ⟨fun _ _ hkey => hkey, fun e he d hsrc => ?_⟩
      -- no edge leads from the frontier to a key that is not reached
      obtain ⟨d', hle, hdst⟩ := h.next.below e he d (Nat.lt_succ_of_le (h.bound _ _ hsrc))
        (by rw [get?_setAll, if_neg (hnone _)]; exact hsrc)
      rw [get?_setAll, if_neg (hnone _)] at hdst
      exact ⟨d', hle, hdst⟩
    | false =>
      obtain ⟨key, hkey⟩ := OrderedSet.isEmpty_eq_false_iff.1 hempty
      have hless := Nat.lt_of_lt_of_le (length_unreached_lt (level + 1) hkey) (Nat.lt_succ_iff.1 hfuel)
      obtain ⟨hkeep, hclosed⟩ := ih h.next hless
      refine ⟨fun key d hget => hkeep key d ?_, hclosed⟩
      rw [get?_setAll, if_neg (fun hin => ?_)]
      · exact hget
      · obtain ⟨e, -, -, hnone, rfl⟩ := mem_nextLevel_iff.1 hin
        cases hnone.symm.trans hget

theorem mem_originKeys_iff {key : String} : key ∈ g.originKeys origin ↔ g.carries origin key = true := by
  rw [originKeys, List.mem_filter, and_iff_right_iff_imp]
  intro hcarries
  unfold carries at hcarries
  split at hcarries
  · next origins horigins => exact OrderedMap.mem_keys_iff.2 ⟨origins, horigins⟩
  · cases hcarries

/-- **No key is farther from an origin than a walk to it is long.** -/
theorem exists_distance_of_walk {n : Nat} {key : String} (h : g.Walk origin n key) :
    ∃ d ≤ n, (g.distances origin).get? key = some d := by
  have hstart : ∀ key, (OrderedMap.ofList ((g.originKeys origin).map (fun key => (key, 0)))).get? key =
      if key ∈ g.originKeys origin then some 0 else none := by
    intro key
    have hkeys : (((g.originKeys origin).map (fun key => (key, 0))).map Prod.fst).Nodup := by
      rw [List.map_map]
      exact (List.map_id _).symm ▸ g.origins.nodup_keys.filter _
    rw [OrderedMap.get?_ofList hkeys, lookup_map_pair]
  have hlevel : g.Levelled 0 (.ofList ((g.originKeys origin).map (fun key => (key, 0))))
      (.ofList (g.originKeys origin)) := by
    refine ⟨fun key d hkey => ?_, fun key hkey => ?_, fun e _ d hd => absurd hd (Nat.not_lt_zero d)⟩
    · rw [hstart] at hkey
      split at hkey
      · exact Option.some.inj hkey ▸ Nat.le_refl 0
      · cases hkey
    · rw [hstart] at hkey
      split at hkey
      · exact OrderedSet.mem_ofList.2 ‹_›
      · cases hkey
  obtain ⟨hkeep, hclosed⟩ := closed_levels hlevel
    (Nat.lt_succ_of_le (List.length_filter_le _ g.edges.toList))
  induction h with
  | enter hcarries =>
    exact ⟨0, Nat.le_refl 0, hkeep _ 0 (by rw [hstart, if_pos (mem_originKeys_iff.2 hcarries)])⟩
  | step _ he ih =>
    obtain ⟨d, hd, hsrc⟩ := ih
    obtain ⟨d', hd', hdst⟩ := hclosed _ he d hsrc
    exact ⟨d', Nat.le_trans hd' (Nat.succ_le_succ hd), hdst⟩

theorem getD_distanceTable (g : FlowGraph) (origin : Origin) :
    g.distanceTable.getD origin ∅ = g.distances origin := by
  have hkeys : ∀ l : List Origin, (l.map (fun o => (o, g.distances o))).map Prod.fst = l := fun l => by
    rw [List.map_map]
    exact List.map_id l
  rw [distanceTable, OrderedMap.getD, OrderedMap.get?_ofList (by rw [hkeys]; exact OrderedSet.nodup_toList _),
    lookup_map_pair]
  split
  · rfl
  · next hout =>
    have hnone : g.originKeys origin = [] := by
      refine List.eq_nil_iff_forall_not_mem.2 fun key hkey => hout ?_
      have hcarries := mem_originKeys_iff.1 hkey
      unfold carries at hcarries
      split at hcarries
      · next found hfound =>
        exact OrderedSet.mem_foldl_union.2 (Or.inr ⟨found, OrderedMap.mem_values_iff.2 ⟨key, hfound⟩,
          of_decide_eq_true hcarries⟩)
      · cases hcarries
    have hnext : (g.nextLevel ∅ ∅).isEmpty = true := by
      refine OrderedSet.isEmpty_iff.2 fun key hkey => ?_
      obtain ⟨e, -, hsrc, -⟩ := mem_nextLevel_iff.1 hkey
      exact absurd hsrc (OrderedSet.not_mem_empty _)
    rw [distances, hnone, levels]
    exact (if_pos hnext).symm

end TaintFlow.FlowGraph
