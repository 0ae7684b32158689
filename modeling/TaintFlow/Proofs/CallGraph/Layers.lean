import Mathlib.Data.List.Induction
import Mathlib.Data.List.Pairwise
import TaintFlow.CallGraph
import TaintFlow.Proofs.CallGraph.Components

/-!
# Layers of the call graph

A component stands one layer above the highest component that it calls into.  Since called components
are listed first, their heights are known by then, so that a function calls into its own component and
into lower layers only (`layered_layers`).
-/

namespace TaintFlow

/-! ### The graph of calls -/

namespace CallGraph

theorem get?_edgeless (vertices : Names) (v : String) :
    (OrderedMap.ofList (vertices.toList.map (fun v => (v, (∅ : Names))))).get? v =
      if v ∈ vertices then some ∅ else none := by
  have hkeys : ((vertices.toList.map (fun v => (v, (∅ : Names)))).map Prod.fst).Nodup := by
    rw [List.map_map]
    exact (List.map_id _).symm ▸ vertices.nodup_toList
  rw [OrderedMap.get?_ofList hkeys, lookup_map_pair]
  rfl

theorem edge_ofEdges_iff {vertices : Names} {edges : List (String × String)} {v w : String} :
    (ofEdges vertices edges).Edge v w ↔ (v, w) ∈ edges := by
  have hfold : ofEdges vertices edges = edges.foldl (fun g e => g.addEdge e.1 e.2)
      (.ofList (vertices.toList.map (fun v => (v, ∅)))) := rfl
  rw [hfold, Graph.edge_foldl_addEdge_iff]
  refine or_iff_right ?_
  rw [Graph.edge_iff]
  rintro ⟨s, hs, hw⟩
  rw [get?_edgeless] at hs
  split at hs
  · cases hs
    exact OrderedSet.not_mem_empty w hw
  · cases hs

theorem mem_keys_ofEdges {vertices : Names} {edges : List (String × String)} {v : String}
    (hv : v ∈ vertices) : v ∈ (ofEdges vertices edges).keys := by
  have hkeep : ∀ (edges : List (String × String)) (g : Graph), v ∈ g.keys →
      v ∈ (edges.foldl (fun g e => g.addEdge e.1 e.2) g).keys := by
    intro edges
    induction edges with
    | nil => intro g hg; exact hg
    | cons e rest ih =>
      intro g hg
      refine ih _ ?_
      rw [OrderedMap.mem_keys_iff] at hg ⊢
      unfold Graph.addEdge
      rw [OrderedMap.get?_set]
      split
      · exact ⟨_, rfl⟩
      · exact hg
  refine hkeep edges _ (OrderedMap.mem_keys_iff.2 ⟨∅, ?_⟩)
  rw [get?_edgeless, if_pos hv]

theorem addEdge_comm (g : Graph) (v w v' w' : String) :
    (g.addEdge v w).addEdge v' w' = (g.addEdge v' w').addEdge v w := by
  refine OrderedMap.eq_of_get?_eq fun x => ?_
  unfold Graph.addEdge
  simp only [OrderedMap.get?_set, OrderedMap.getD_set]
  by_cases hv : v = v'
  · subst hv
    by_cases hx : x = v <;> simp [hx, OrderedSet.insert_comm _ w w']
  · have hv' : v' ≠ v := Ne.symm hv
    by_cases hx : x = v <;> by_cases hx' : x = v' <;> simp_all

/-- It does not matter in which order the edges come. -/
theorem ofEdges_perm {vertices : Names} {edges edges' : List (String × String)}
    (h : edges.Perm edges') : ofEdges vertices edges = ofEdges vertices edges' :=
  h.foldl_eq' (fun e _ e' _ g => addEdge_comm g e.1 e.2 e'.1 e'.2) _

theorem mem_calls_iff {p : Program} {v w : String} : (v, w) ∈ calls p ↔
    ∃ id f, p.functions.get? id = some f ∧ f.id = v ∧ ∃ node n, f.node? node = some n ∧
      n.kind = .call ∧ n.callee = .text w ∧ w ∈ p.functionIds ∧ n.dynamic = false := by
  simp only [calls, List.mem_flatMap, List.mem_filterMap, Table.mem_values_iff]
  constructor
  · rintro ⟨f, ⟨id, hf⟩, ⟨node, n⟩, hn, he⟩
    obtain ⟨hn, hkind⟩ := List.mem_filter.1 hn
    dsimp only at he
    split at he
    · next callee hcallee =>
      split at he
      · next hknown =>
        cases he
        exact ⟨id, f, hf, rfl, node, n, Table.mem_entries_iff.1 hn, by simpa using hkind, hcallee,
          hknown⟩
      · cases he
    · cases he
  · rintro ⟨id, f, hf, rfl, node, n, hn, hkind, hcallee, hknown⟩
    refine ⟨f, ⟨id, hf⟩, (node, n), ?_, ?_⟩
    · exact List.mem_filter.2 ⟨Table.mem_entries_iff.2 hn, by simpa using hkind⟩
    · simp [hcallee, hknown]

theorem edge_ofProgram_iff {p : Program} {v w : String} : (ofProgram p).callees.Edge v w ↔
    ∃ id f, p.functions.get? id = some f ∧ f.id = v ∧ ∃ node n, f.node? node = some n ∧
      n.kind = .call ∧ n.callee = .text w ∧ w ∈ p.functionIds ∧ n.dynamic = false :=
  edge_ofEdges_iff.trans mem_calls_iff

/-! ### Heights -/

theorem le_foldl_max {α : Type} (value : α → Nat) (l : List α) (n : Nat) :
    ∀ a ∈ l, value a ≤ l.foldl (fun h a => max h (value a)) n :=
  ((foldl_max_le_iff value).1 (Nat.le_refl _)).2

theorem lt_heightOver {g : CallGraph} {heights : List (Names × Nat)} {c lower : Names} {h : Nat}
    (hmem : (lower, h) ∈ heights) (hne : lower ≠ c) {v w : String} (hv : v ∈ c) (hw : w ∈ lower)
    (hedge : g.callees.Edge v w) : h < g.heightOver heights c := by
  refine le_foldl_max (fun entry : Names × Nat => entry.2 + 1) _ 0 (lower, h) ?_
  refine List.mem_filter.2 ⟨hmem, ?_⟩
  have hcalled : w ∈ c.toList.flatMap (fun f => (g.callees.successors f).toList) :=
    List.mem_flatMap.2 ⟨v, hv, hedge⟩
  simp only [hne, ne_eq, not_false_eq_true, true_and, decide_eq_true_eq, List.any_eq_true]
  exact ⟨w, hcalled, by simpa using hw⟩

/-- The heights are those of the components, each over what is listed before it. -/
theorem heights_spec (g : CallGraph) : g.heights.map Prod.fst = g.components ∧
    ∀ before c h after, g.heights = before ++ (c, h) :: after → h = g.heightOver before c := by
  have hfold : ∀ (cs : List Names) (known : List (Names × Nat)),
      ∃ more, cs.foldl (fun heights c => heights ++ [(c, g.heightOver heights c)]) known =
          known ++ more ∧ more.map Prod.fst = cs ∧
        ∀ before c h after, more = before ++ (c, h) :: after →
          h = g.heightOver (known ++ before) c := by
    intro cs
    induction cs with
    | nil =>
      intro known
      exact ⟨[], by simp, rfl, fun before c h after he => by simp at he⟩
    | cons c rest ih =>
      intro known
      obtain ⟨more, hmore, hmap, hover⟩ := ih (known ++ [(c, g.heightOver known c)])
      refine ⟨(c, g.heightOver known c) :: more, ?_, by simp [hmap], ?_⟩
      · rw [List.foldl_cons, hmore]
        simp
      · intro before d h after he
        cases before with
        | nil =>
          obtain ⟨he, -⟩ := List.cons.inj he
          cases he
          rw [List.append_nil]
        | cons first before =>
          obtain ⟨rfl, hrest⟩ := List.cons.inj he
          rw [hover before d h after hrest]
          simp
  obtain ⟨more, hmore, hmap, hover⟩ := hfold g.components []
  have hheights : g.heights = more := hmore
  rw [hheights]
  exact ⟨hmap, fun before c h after he => hover before c h after he⟩

/-! ### Layers -/

/-- Components one after the other in layers: each vertex in one of them, and an edge leads into the
same component or to a layer before. -/
structure Layered (g : Graph) (layers : List (List Names)) : Prop where
  covered : ∀ v ∈ g.vertices, ∃ layer ∈ layers, ∃ c ∈ layer, v ∈ c
  disjoint : ∀ layer ∈ layers, layer.Pairwise (fun c d => ∀ v ∈ c, v ∉ d)
  fresh : ∀ before layer after, layers = before ++ layer :: after → ∀ c ∈ layer, ∀ v ∈ c,
    ∀ lower ∈ before, ∀ d ∈ lower, v ∉ d
  lower : ∀ before layer after, layers = before ++ layer :: after → ∀ c ∈ layer, ∀ v ∈ c, ∀ w,
    g.Edge v w → w ∈ c ∨ ∃ lower ∈ before, ∃ d ∈ lower, w ∈ d

def layerAt (g : CallGraph) (height : Nat) : List Names :=
  (g.heights.filter (fun (_, h) => h = height)).map Prod.fst

theorem mem_layerAt_iff {g : CallGraph} {height : Nat} {c : Names} :
    c ∈ g.layerAt height ↔ (c, height) ∈ g.heights := by
  simp only [layerAt, List.mem_map, List.mem_filter, Prod.exists, decide_eq_true_eq]
  constructor
  · rintro ⟨d, h, ⟨hmem, rfl⟩, rfl⟩
    exact hmem
  · intro hmem
    exact ⟨c, height, ⟨hmem, rfl⟩, rfl⟩

theorem layers_eq (g : CallGraph) : ∃ count, g.layers = (List.range count).map g.layerAt ∧
    ∀ c h, (c, h) ∈ g.heights → h < count := by
  refine ⟨g.heights.foldl (fun n entry => max n (entry.2 + 1)) 0, rfl, fun c h hmem => ?_⟩
  exact le_foldl_max (fun entry : Names × Nat => entry.2 + 1) g.heights 0 (c, h) hmem

/-- What stands before a layer are the layers of the lower heights. -/
theorem layers_split {count : Nat} {f : Nat → List Names} {before after : List (List Names)}
    {layer : List Names} (h : (List.range count).map f = before ++ layer :: after) :
    layer = f before.length ∧ ∀ lower, lower ∈ before ↔ ∃ i < before.length, f i = lower := by
  have hget : ∀ i, i < before.length + 1 → (before ++ layer :: after)[i]? = some (f i) := by
    intro i hi
    have hlen := congrArg List.length h
    simp only [List.length_map, List.length_range, List.length_append, List.length_cons] at hlen
    rw [← h, List.getElem?_map, List.getElem?_range (by omega)]
    rfl
  constructor
  · have := hget before.length (by omega)
    simpa using this
  · intro lower
    have hbefore : ∀ i (hi : i < before.length), before[i] = f i := by
      intro i hi
      have := hget i (by omega)
      rw [List.getElem?_append_left hi, List.getElem?_eq_getElem hi] at this
      exact Option.some.inj this
    constructor
    · intro hlower
      obtain ⟨i, hi, rfl⟩ := List.mem_iff_getElem.1 hlower
      exact ⟨i, hi, (hbefore i hi).symm⟩
    · rintro ⟨i, hi, rfl⟩
      rw [← hbefore i hi]
      exact List.getElem_mem hi

theorem exists_height (g : CallGraph) (hcomponents : g.components = g.callees.components) {v : String}
    (hv : v ∈ g.callees.vertices) : ∃ c h, (c, h) ∈ g.heights ∧ v ∈ c := by
  obtain ⟨c, hc, hvc⟩ := g.callees.components_spec.2.1 v hv
  rw [← hcomponents, ← g.heights_spec.1] at hc
  obtain ⟨⟨d, h⟩, hmem, rfl⟩ := List.mem_map.1 hc
  exact ⟨d, h, hmem, hvc⟩

theorem pairwise_heights (g : CallGraph) (hcomponents : g.components = g.callees.components) :
    g.heights.Pairwise (fun a b => ∀ v ∈ a.1, v ∉ b.1 ∧ ∀ w, g.callees.Edge v w → w ∉ b.1) := by
  have hpair := g.callees.components_spec.2.2
  rwa [← hcomponents, ← g.heights_spec.1, List.pairwise_map] at hpair

theorem disjoint_of_mem_heights (g : CallGraph) (hcomponents : g.components = g.callees.components)
    {a b : Names × Nat} (ha : a ∈ g.heights) (hb : b ∈ g.heights) (hne : a ≠ b) :
    ∀ v ∈ a.1, v ∉ b.1 := by
  have hsymm : Std.Symm (fun a b : Names × Nat => ∀ v ∈ a.1, v ∉ b.1) :=
    ⟨fun a b hab v hv hva => hab v hva hv⟩
  have hpair := g.pairwise_heights hcomponents
  exact (hpair.imp fun {a b} hab v hv => (hab v hv).1).forall ha hb hne

/-- **A call into another component leads to a smaller height.** -/
theorem height_lt_of_edge (g : CallGraph) (hcomponents : g.components = g.callees.components)
    {c d : Names} {h k : Nat} (hc : (c, h) ∈ g.heights) (hd : (d, k) ∈ g.heights) (hne : d ≠ c)
    {v w : String} (hv : v ∈ c) (hw : w ∈ d) (hedge : g.callees.Edge v w) : k < h := by
  have hpair := g.pairwise_heights hcomponents
  obtain ⟨listed, rest, hparts⟩ := List.append_of_mem hc
  have hlisted : (d, k) ∈ listed := by
    rw [hparts] at hd hpair
    rcases List.mem_append.1 hd with hd | hd
    · exact hd
    · rcases List.mem_cons.1 hd with he | hd
      · exact absurd (congrArg Prod.fst he) hne
      · -- a component that is listed later is not called
        have hlater := (List.pairwise_cons.1 (List.pairwise_append.1 hpair).2.1).1 (d, k) hd
        exact absurd hw ((hlater v hv).2 w hedge)
  rw [g.heights_spec.2 listed c h rest hparts]
  exact lt_heightOver hlisted hne hv hw hedge

/-- **The layers of a call graph are layered.** -/
theorem layered_layers (g : CallGraph) (hcomponents : g.components = g.callees.components) :
    Layered g.callees g.layers := by
  obtain ⟨count, hlayers, hcount⟩ := g.layers_eq
  refine ⟨?_, ?_, ?_, ?_⟩
  · intro v hv
    obtain ⟨c, h, hmem, hvc⟩ := g.exists_height hcomponents hv
    refine ⟨g.layerAt h, ?_, c, mem_layerAt_iff.2 hmem, hvc⟩
    rw [hlayers]
    exact List.mem_map.2 ⟨h, List.mem_range.2 (hcount c h hmem), rfl⟩
  · intro layer hlayer
    rw [hlayers] at hlayer
    obtain ⟨h, -, rfl⟩ := List.mem_map.1 hlayer
    have hpair := g.pairwise_heights hcomponents
    refine List.pairwise_map.2 ?_
    exact (hpair.imp fun {a b} hab v hv => (hab v hv).1).sublist List.filter_sublist
  · intro before layer after hsplit c hc v hv lower hlower d hd
    rw [hlayers] at hsplit
    obtain ⟨rfl, hbefore⟩ := layers_split hsplit
    obtain ⟨i, hi, rfl⟩ := (hbefore lower).1 hlower
    refine g.disjoint_of_mem_heights hcomponents (mem_layerAt_iff.1 hc) (mem_layerAt_iff.1 hd) ?_ v hv
    intro he
    have := congrArg Prod.snd he
    dsimp only at this
    omega
  · intro before layer after hsplit c hc v hv w hedge
    rw [hlayers] at hsplit
    obtain ⟨rfl, hbefore⟩ := layers_split hsplit
    obtain ⟨d, h, hd, hwd⟩ := g.exists_height hcomponents (Graph.mem_vertices_of_edge hedge)
    by_cases hw : w ∈ c
    · exact Or.inl hw
    · have hne : d ≠ c := fun he => hw (he ▸ hwd)
      have hlt := g.height_lt_of_edge hcomponents (mem_layerAt_iff.1 hc) hd hne hv hwd hedge
      exact Or.inr ⟨g.layerAt h, (hbefore _).2 ⟨h, hlt, rfl⟩, d, mem_layerAt_iff.2 hd, hwd⟩

/-- What holds of a component once it holds of the functions that it calls holds of all functions. -/
theorem Layered.induction {g : Graph} {layers done rest : List (List Names)} (h : Layered g layers)
    (hsplit : layers = done ++ rest) {P : String → Prop}
    (step : ∀ layer ∈ done, ∀ c ∈ layer,
      (∀ v ∈ c, ∀ w, g.Edge v w → w ∉ c → (∃ lower ∈ done, ∃ d ∈ lower, w ∈ d) ∧ P w) →
        ∀ v ∈ c, P v) :
    ∀ layer ∈ done, ∀ c ∈ layer, ∀ v ∈ c, P v := by
  have hprefix : ∀ before after, done = before ++ after →
      ∀ layer ∈ before, ∀ c ∈ layer, ∀ v ∈ c, P v := by
    intro before
    induction before using List.reverseRecOn with
    | nil => exact fun _ _ layer hl => absurd hl List.not_mem_nil
    | append_singleton before last ih =>
      intro after hparts layer hl
      rw [List.append_assoc] at hparts
      have hlower := ih ([last] ++ after) hparts
      rcases List.mem_append.1 hl with hl | hl
      · exact hlower layer hl
      · obtain rfl := List.mem_singleton.1 hl
        refine fun c hc => step layer (by rw [hparts]; simp) c hc fun v hv w hedge hout => ?_
        have hwhole : layers = before ++ layer :: (after ++ rest) := by
          rw [hsplit, hparts]
          simp
        rcases h.lower before layer _ hwhole c hc v hv w hedge with hin | ⟨lower, hl', d, hd, hwd⟩
        · exact absurd hin hout
        · refine ⟨⟨lower, ?_, d, hd, hwd⟩, hlower lower hl' d hd w hwd⟩
          rw [hparts]
          exact List.mem_append_left _ hl'
  exact hprefix done [] (List.append_nil done).symm

/-- A component of a layer holds what is mutually reachable with any of its members. -/
theorem mem_iff_mutual_of_layer (g : CallGraph) (hcomponents : g.components = g.callees.components)
    {layer : List Names} (hlayer : layer ∈ g.layers) {c : Names} (hc : c ∈ layer) {v w : String}
    (hv : v ∈ c) : w ∈ c ↔ g.callees.Mutual v w := by
  obtain ⟨count, hlayers, -⟩ := g.layers_eq
  rw [hlayers] at hlayer
  obtain ⟨height, -, rfl⟩ := List.mem_map.1 hlayer
  have hmem : c ∈ g.callees.components := by
    rw [← hcomponents, ← g.heights_spec.1]
    exact List.mem_map.2 ⟨(c, height), mem_layerAt_iff.1 hc, rfl⟩
  obtain ⟨u, -, hu⟩ := g.callees.components_spec.1 c hmem
  have huv := (hu v).1 hv
  rw [hu w]
  exact ⟨fun huw => huv.symm.trans huw, fun hvw => huv.trans hvw⟩

end CallGraph

end TaintFlow
