import Mathlib.Order.Basic
import TaintFlow.Proofs.CallGraph.Layers

/-!
# Heights of components

The height of a component is the length of the longest chain of components below it.  Heights fall along
calls out of a component, so that no chain is longer (`length_le_of_chain`); and a component of height
`k + 1` calls into one of height `k`, which gives a chain of that length (`exists_chain`), and a component
of every smaller height, so that no layer is empty.  The look-ups that heights and layers are computed
with never fail, because a component is listed after what it calls into (`layers?_eq`).
-/

namespace TaintFlow.CallGraph

variable {g : CallGraph}

def CallsInto (g : CallGraph) (c d : Names) : Prop :=
  c ≠ d ∧ ∃ v ∈ c, ∃ w ∈ d, g.callees.Edge v w

/-- The second component is another one, with a function that the first one leads to. -/
def LeadsTo (g : CallGraph) (c d : Names) : Prop :=
  c ≠ d ∧ ∃ v ∈ c, ∃ w ∈ d, g.callees.Reaches v w

/-- Different components below a component, each of them below the one before it. -/
structure Chain (g : CallGraph) (below : Names → Names → Prop) (c : Names) (ds : List Names) : Prop where
  component : ∀ d ∈ ds, d ∈ g.components
  distinct : (c :: ds).Nodup
  linked : (c :: ds).IsChain below

/-- What a call graph that is made from a program has: its components are those of its calls, and every
function has an entry. -/
structure Built (g : CallGraph) : Prop where
  components : g.components = g.callees.components
  entry : ∀ v ∈ g.callees.vertices, v ∈ g.callees.keys

theorem built_ofProgram (p : Program) : (ofProgram p).Built where
  components := rfl
  entry := by
    intro v hv
    rcases Graph.mem_vertices_iff.1 hv with hv | ⟨u, hedge⟩
    · exact hv
    · obtain ⟨-, -, -, -, -, -, -, -, -, hknown, -⟩ := edge_ofProgram_iff.1 hedge
      exact mem_keys_ofEdges hknown

theorem mapM_eq_some_map {α β : Type} {f : α → Option β} {k : α → β} {l : List α}
    (h : ∀ a ∈ l, f a = some (k a)) : l.mapM f = some (l.map k) := by
  induction l with
  | nil => rfl
  | cons a rest ih =>
    rw [List.mapM_cons, h a List.mem_cons_self, ih fun b hb => h b (List.mem_cons_of_mem a hb)]
    rfl

/-! ### Chains of components -/

theorem exists_of_foldl_max {α : Type} {value : α → Nat} {l : List α} {n k : Nat}
    (h : l.foldl (fun h a => max h (value a)) n = k) (hn : n ≠ k) : ∃ a ∈ l, value a = k := by
  induction l generalizing n with
  | nil => exact absurd h hn
  | cons a rest ih =>
    by_cases ha : max n (value a) = k
    · exact ⟨a, List.mem_cons_self, by omega⟩
    · obtain ⟨b, hb, hvalue⟩ := ih h ha
      exact ⟨b, List.mem_cons_of_mem a hb, hvalue⟩

theorem mem_components_iff {c : Names} : c ∈ g.components ↔ ∃ h, (c, h) ∈ g.heights := by
  rw [← g.heights_spec.1, List.mem_map]
  constructor
  · rintro ⟨⟨d, h⟩, hmem, rfl⟩
    exact ⟨h, hmem⟩
  · rintro ⟨h, hmem⟩
    exact ⟨(c, h), hmem, rfl⟩

/-- **A component calls into one that is just below it**, unless its height is zero. -/
theorem exists_callsInto {c : Names} {k : Nat} (hc : (c, k + 1) ∈ g.heights) :
    ∃ d, (d, k) ∈ g.heights ∧ g.CallsInto c d := by
  obtain ⟨listed, rest, hparts⟩ := List.append_of_mem hc
  have hover := g.heights_spec.2 listed c (k + 1) rest hparts
  obtain ⟨⟨d, l⟩, hd, hl⟩ := exists_of_foldl_max hover.symm (Nat.succ_ne_zero k).symm
  obtain ⟨hlisted, hcalled⟩ := List.mem_filter.1 hd
  obtain rfl : l = k := by simpa using hl
  simp only [ne_eq, decide_eq_true_eq, List.any_eq_true, List.mem_flatMap] at hcalled
  obtain ⟨hne, w, ⟨v, hv, hw⟩, hwd⟩ := hcalled
  exact ⟨d, by rw [hparts]; exact List.mem_append_left _ hlisted, Ne.symm hne, v, hv, w, hwd, hw⟩

theorem heightOver_le_iff {known : List (Names × Nat)} {c : Names} {k : Nat} :
    g.heightOver known c ≤ k ↔ ∀ entry ∈ known, g.CallsInto c entry.1 → entry.2 + 1 ≤ k := by
  rw [heightOver, foldl_max_le_iff (fun entry : Names × Nat => entry.2 + 1)]
  simp only [Nat.zero_le, true_and, List.mem_filter, and_imp]
  refine forall₂_congr fun entry _ => ?_
  simp only [ne_eq, decide_eq_true_eq, List.any_eq_true, List.mem_flatMap, CallsInto]
  constructor
  · rintro hle ⟨hne, v, hv, w, hw, hedge⟩
    exact hle ⟨Ne.symm hne, w, ⟨v, hv, hedge⟩, hw⟩
  · rintro hle ⟨hne, w, ⟨v, hv, hedge⟩, hw⟩
    exact hle ⟨Ne.symm hne, v, hv, w, hw, hedge⟩

theorem exists_of_le {c : Names} {h i : Nat} (hc : (c, h) ∈ g.heights) (hi : i ≤ h) :
    ∃ d, (d, i) ∈ g.heights := by
  induction h generalizing c with
  | zero => exact ⟨c, Nat.le_zero.1 hi ▸ hc⟩
  | succ k ih =>
    rcases Nat.lt_or_eq_of_le hi with hlt | rfl
    · obtain ⟨d, hd, -⟩ := exists_callsInto hc
      exact ih hd (Nat.lt_succ_iff.1 hlt)
    · exact ⟨c, hc⟩

namespace Built

theorem exists_member (hg : g.Built) {c : Names} (hc : c ∈ g.components) :
    ∃ v ∈ g.callees.vertices, v ∈ c := by
  obtain ⟨v, hv, hclass⟩ := g.callees.components_spec.1 c (hg.components ▸ hc)
  exact ⟨v, hv, (hclass v).2 (.refl v)⟩

theorem mem_vertices (hg : g.Built) {c : Names} (hc : c ∈ g.components) {v : String} (hv : v ∈ c) :
    v ∈ g.callees.vertices := by
  obtain ⟨u, hu, hclass⟩ := g.callees.components_spec.1 c (hg.components ▸ hc)
  exact Graph.mem_vertices_of_reaches hu ((hclass v).1 hv).1

theorem eq_of_mem (hg : g.Built) {a b : Names × Nat} (ha : a ∈ g.heights) (hb : b ∈ g.heights)
    {v : String} (hva : v ∈ a.1) (hvb : v ∈ b.1) : a = b := by
  by_contra hne
  exact g.disjoint_of_mem_heights hg.components ha hb hne v hva hvb

theorem height_unique (hg : g.Built) {c : Names} {h k : Nat} (hc : (c, h) ∈ g.heights)
    (hd : (c, k) ∈ g.heights) : h = k := by
  obtain ⟨v, -, hv⟩ := hg.exists_member (mem_components_iff.2 ⟨h, hc⟩)
  exact congrArg Prod.snd (hg.eq_of_mem hc hd hv hv)

/-- **What a component leads to has a smaller height.** -/
theorem lt_of_leadsTo (hg : g.Built) {c d : Names} {h k : Nat} (hc : (c, h) ∈ g.heights)
    (hd : (d, k) ∈ g.heights) (hlead : g.LeadsTo c d) : k < h := by
  obtain ⟨hne, v, hv, w, hw, hreach⟩ := hlead
  -- along the way the height never rises, and it falls when a component is left
  have hway : ∀ {x}, g.callees.Reaches v x → ∀ {e l}, (e, l) ∈ g.heights → x ∈ e →
      e = c ∨ l < h := by
    intro x hx
    induction hx with
    | refl =>
      intro e l he hve
      exact Or.inl (congrArg Prod.fst (hg.eq_of_mem he hc hve hv))
    | @tail x y hx hedge ih =>
      intro e l he hye
      obtain ⟨e', l', he', hxe'⟩ := g.exists_height hg.components (Graph.mem_vertices_of_reaches
        (hg.mem_vertices (mem_components_iff.2 ⟨h, hc⟩) hv) hx)
      have hstep : e = e' ∨ l < l' := by
        by_cases heq : e = e'
        · exact Or.inl heq
        · exact Or.inr (g.height_lt_of_edge hg.components he' he heq hxe' hye hedge)
      rcases hstep with rfl | hlt
      · exact hg.height_unique he he' ▸ ih he' hxe'
      · rcases ih he' hxe' with rfl | hlower
        · exact Or.inr (hg.height_unique hc he' ▸ hlt)
        · exact Or.inr (Nat.lt_trans hlt hlower)
  exact (hway hreach hd hw).resolve_left (Ne.symm hne)

/-- No chain is longer than the height. -/
theorem length_le_of_chain (hg : g.Built) {c : Names} {h : Nat} (hc : (c, h) ∈ g.heights)
    {ds : List Names} (hchain : g.Chain g.LeadsTo c ds) : ds.length ≤ h := by
  obtain ⟨hcomponent, -, hlinked⟩ := hchain
  induction ds generalizing c h with
  | nil => exact Nat.zero_le h
  | cons d rest ih =>
    obtain ⟨hcd, hrest⟩ := List.isChain_cons_cons.1 hlinked
    obtain ⟨k, hd⟩ := mem_components_iff.1 (hcomponent d List.mem_cons_self)
    have hlt := hg.lt_of_leadsTo hc hd hcd
    have hle := ih hd (fun e he => hcomponent e (List.mem_cons_of_mem d he)) hrest
    exact Nat.succ_le_of_lt (Nat.lt_of_le_of_lt hle hlt)

theorem exists_chain (hg : g.Built) {c : Names} {h : Nat} (hc : (c, h) ∈ g.heights) :
    ∃ ds, g.Chain g.CallsInto c ds ∧ ds.length = h ∧ ∀ d ∈ ds, ∃ k < h, (d, k) ∈ g.heights := by
  induction h generalizing c with
  | zero =>
    exact ⟨[], ⟨fun d hd => absurd hd List.not_mem_nil, List.nodup_singleton c, .singleton c⟩, rfl,
      fun d hd => absurd hd List.not_mem_nil⟩
  | succ k ih =>
    obtain ⟨d, hd, hcalls⟩ := exists_callsInto hc
    obtain ⟨ds, ⟨hcomponent, hdistinct, hlinked⟩, hlength, hlower⟩ := ih hd
    have hall : ∀ e ∈ d :: ds, ∃ l < k + 1, (e, l) ∈ g.heights := by
      intro e he
      rcases List.mem_cons.1 he with rfl | he
      · exact ⟨k, Nat.lt_succ_self k, hd⟩
      · obtain ⟨l, hl, hmem⟩ := hlower e he
        exact ⟨l, Nat.lt_succ_of_lt hl, hmem⟩
    refine ⟨d :: ds, ⟨?_, List.nodup_cons.2 ⟨fun hin => ?_, hdistinct⟩,
      List.isChain_cons_cons.2 ⟨hcalls, hlinked⟩⟩, by rw [List.length_cons, hlength], hall⟩
    · intro e he
      obtain ⟨l, -, hmem⟩ := hall e he
      exact mem_components_iff.2 ⟨l, hmem⟩
    · obtain ⟨l, hl, hmem⟩ := hall c hin
      exact Nat.lt_irrefl l (hg.height_unique hc hmem ▸ hl)

/-! ### The look-ups succeed -/

theorem nodup_components (hg : g.Built) : g.components.Nodup := by
  have hpair := g.callees.components_spec.2.2
  rw [← hg.components] at hpair
  refine hpair.imp_of_mem fun {c d} hc _ hcd he => ?_
  obtain ⟨v, -, hv⟩ := hg.exists_member hc
  exact (hcd v hv).1 (he ▸ hv)

theorem get?_componentOf (hg : g.Built) {c : Names} (hc : c ∈ g.components) {v : String} (hv : v ∈ c) :
    g.componentOf.get? v = some c := by
  have hlist : g.componentOf =
      .ofList (g.components.flatMap (fun c => c.toList.map (fun f => (f, c)))) := by
    rw [componentOf, OrderedMap.ofList, List.foldl_flatMap]
    simp only [List.foldl_map]
    rfl
  have hkeys : ((g.components.flatMap (fun c => c.toList.map (fun f => (f, c)))).map Prod.fst).Nodup := by
    rw [List.map_flatMap]
    simp only [List.map_map, Function.comp_def, List.map_id']
    refine List.nodup_flatMap.2 ⟨fun c _ => c.nodup_toList, ?_⟩
    have hpair := g.callees.components_spec.2.2
    rw [← hg.components] at hpair
    exact hpair.imp fun {c d} hcd v hvc hvd => (hcd v hvc).1 hvd
  rw [hlist, OrderedMap.get?_ofList hkeys, ← mem_iff_lookup_eq_some hkeys]
  exact List.mem_flatMap.2 ⟨c, hc, List.mem_map_of_mem hv⟩

theorem getD_componentOf (hg : g.Built) {c : Names} (hc : c ∈ g.components) {v : String}
    (hv : v ∈ c) : g.componentOf.getD v ∅ = c := by
  rw [OrderedMap.getD, hg.get?_componentOf hc hv]
  rfl

theorem exists_component (hg : g.Built) {v : String} (hv : v ∈ g.callees.vertices) :
    ∃ c ∈ g.components, v ∈ c := by
  rw [hg.components]
  exact g.callees.components_spec.2.1 v hv

theorem below?_eq (hg : g.Built) {c : Names} (hc : c ∈ g.components) :
    ∃ below, g.below? c = some below ∧ ∀ b, b ∈ below ↔ b ∈ g.components ∧ g.CallsInto c b := by
  have hcalled : c.toList.mapM g.callees.get? = some (c.toList.map g.callees.successors) := by
    refine mapM_eq_some_map fun v hv => ?_
    obtain ⟨s, hs⟩ := OrderedMap.mem_keys_iff.1 (hg.entry v (hg.mem_vertices hc hv))
    rw [hs, Graph.successors, OrderedMap.getD, hs]
    rfl
  have hmem : ∀ w, w ∈ (c.toList.map g.callees.successors).flatMap OrderedSet.toList ↔
      ∃ v ∈ c, g.callees.Edge v w := by
    intro w
    simp only [List.flatMap_map, List.mem_flatMap]
    rfl
  have hbelow : ((c.toList.map g.callees.successors).flatMap OrderedSet.toList).mapM
      g.componentOf.get? = some (((c.toList.map g.callees.successors).flatMap OrderedSet.toList).map
        (fun w => g.componentOf.getD w ∅)) := by
    refine mapM_eq_some_map fun w hw => ?_
    obtain ⟨v, -, hedge⟩ := (hmem w).1 hw
    obtain ⟨d, hd, hwd⟩ := hg.exists_component (Graph.mem_vertices_of_edge hedge)
    rw [hg.getD_componentOf hd hwd, hg.get?_componentOf hd hwd]
  refine ⟨_, by simp only [below?, hcalled, hbelow, Option.bind_eq_bind, Option.bind_some]; rfl,
    fun b => ?_⟩
  simp only [List.mem_filter, List.mem_map, hmem, decide_eq_true_eq]
  constructor
  · rintro ⟨⟨w, ⟨v, hv, hedge⟩, rfl⟩, hne⟩
    obtain ⟨d, hd, hwd⟩ := hg.exists_component (Graph.mem_vertices_of_edge hedge)
    rw [hg.getD_componentOf hd hwd] at hne ⊢
    exact ⟨hd, Ne.symm hne, v, hv, w, hwd, hedge⟩
  · rintro ⟨hb, hne, v, hv, w, hw, hedge⟩
    exact ⟨⟨w, ⟨v, hv, hedge⟩, hg.getD_componentOf hb hw⟩, Ne.symm hne⟩

theorem mem_of_callsInto (hg : g.Built) {listed rest : List Names} {b c : Names}
    (hparts : g.components = listed ++ c :: rest) (hb : b ∈ g.components) (hcalls : g.CallsInto c b) :
    b ∈ listed := by
  obtain ⟨hne, v, hv, w, hw, hedge⟩ := hcalls
  have hpair := g.callees.components_spec.2.2
  rw [← hg.components, hparts] at hpair
  rw [hparts] at hb
  rcases List.mem_append.1 hb with hb | hb
  · exact hb
  · rcases List.mem_cons.1 hb with rfl | hb
    · exact absurd rfl hne
    · have hlater := (List.pairwise_cons.1 (List.pairwise_append.1 hpair).2.1).1 b hb
      exact absurd hw ((hlater v hv).2 w hedge)

/-- One more height, found by look-ups. -/
theorem exists_below (hg : g.Built) {known : List (Names × Nat)} {c : Names} {rest : List Names}
    (hparts : g.components = known.map Prod.fst ++ c :: rest) : ∃ below heights,
      g.below? c = some below ∧ below.mapM (fun b => known.lookup b) = some heights ∧
        heights.foldl (fun h height => max h (height + 1)) 0 = g.heightOver known c := by
  have hc : c ∈ g.components := by rw [hparts]; simp
  obtain ⟨below, hbelow, hmem⟩ := hg.below?_eq hc
  have hnodup : (known.map Prod.fst).Nodup :=
    (List.nodup_append.1 (hparts ▸ hg.nodup_components)).1
  have hknown : ∀ b ∈ below, ∃ h, (b, h) ∈ known := by
    intro b hb
    obtain ⟨hin, hcalls⟩ := (hmem b).1 hb
    obtain ⟨⟨d, h⟩, hdh, rfl⟩ := List.mem_map.1 (hg.mem_of_callsInto hparts hin hcalls)
    exact ⟨h, hdh⟩
  have hvalue : ∀ {b h}, (b, h) ∈ known → (known.lookup b).getD 0 = h := fun hbh => by
    rw [(mem_iff_lookup_eq_some hnodup).1 hbh]
    rfl
  have hlookup : below.mapM (fun b => known.lookup b) =
      some (below.map (fun b => (known.lookup b).getD 0)) := by
    refine mapM_eq_some_map fun b hb => ?_
    obtain ⟨h, hbh⟩ := hknown b hb
    rw [hvalue hbh, (mem_iff_lookup_eq_some hnodup).1 hbh]
  refine ⟨below, _, hbelow, hlookup, eq_of_forall_ge_iff fun k => ?_⟩
  rw [List.foldl_map, heightOver_le_iff, foldl_max_le_iff (fun b => (known.lookup b).getD 0 + 1)]
  constructor
  · rintro ⟨-, hall⟩ ⟨b, h⟩ hbh hcalls
    have hb : b ∈ g.components := by
      rw [hparts]
      exact List.mem_append_left _ (List.mem_map_of_mem hbh)
    exact hvalue hbh ▸ hall b ((hmem b).2 ⟨hb, hcalls⟩)
  · refine fun hall => ⟨Nat.zero_le k, fun b hb => ?_⟩
    obtain ⟨h, hbh⟩ := hknown b hb
    rw [hvalue hbh]
    exact hall (b, h) hbh ((hmem b).1 hb).2

theorem heights?_eq (hg : g.Built) : g.heights? = some g.heights := by
  have hfrom : ∀ (rest : List Names) (known : List (Names × Nat)),
      g.components = known.map Prod.fst ++ rest →
      rest.foldlM (fun heights c => do
        let below ← (← g.below? c).mapM (fun b => heights.lookup b)
        return heights ++ [(c, below.foldl (fun h height => max h (height + 1)) 0)]) known =
      some (rest.foldl (fun heights c => heights ++ [(c, g.heightOver heights c)]) known) := by
    intro rest
    induction rest with
    | nil => exact fun _ _ => rfl
    | cons c rest ih =>
      intro known hparts
      obtain ⟨below, heights, hbelow, hlookup, hheight⟩ := hg.exists_below hparts
      have hnext : g.components = (known ++ [(c, g.heightOver known c)]).map Prod.fst ++ rest := by
        rw [hparts]
        simp
      rw [List.foldlM_cons, List.foldl_cons, ← ih _ hnext, hbelow]
      simp only [Option.bind_eq_bind, Option.bind_some, hlookup, hheight, Option.pure_def]
  exact hfrom g.components [] rfl

end Built

def ofHeight (known : List (Names × Nat)) (height : Nat) : List Names :=
  (known.filter (fun (_, h) => h = height)).map Prod.fst

theorem place?_ofHeight {known : List (Names × Nat)} {count : Nat} {c : Names} {h : Nat}
    (hlt : h < count) : place? ((List.range count).map (ofHeight known)) c h =
      some ((List.range count).map (ofHeight (known ++ [(c, h)]))) := by
  have hlength : h < ((List.range count).map (ofHeight known)).length := by simpa using hlt
  rw [place?, if_pos hlength]
  refine congrArg some (List.ext_getElem (by simp) fun i hi _ => ?_)
  rw [List.getElem_modify]
  simp only [List.getElem_map, List.getElem_range, ofHeight, List.filter_append, List.map_append]
  by_cases heq : h = i <;> simp [heq]

theorem Built.layers?_eq (hg : g.Built) : g.layers? = some g.layers := by
  have hnodup : (g.heights.map Prod.fst).Nodup := g.heights_spec.1 ▸ hg.nodup_components
  obtain ⟨count, hcount⟩ : ∃ count, count =
    g.heights.foldl (fun n (entry : Names × Nat) => max n (entry.2 + 1)) 0 := ⟨_, rfl⟩
  have hbound : ∀ entry ∈ g.heights, entry.2 < count := by
    rw [hcount]
    exact le_foldl_max (fun entry : Names × Nat => entry.2 + 1) g.heights 0
  have hfrom : ∀ (rest known : List (Names × Nat)), g.heights = known ++ rest →
      (rest.map Prod.fst).foldlM (fun layers c => do place? layers c (← g.heights.lookup c))
        ((List.range count).map (ofHeight known)) =
      some ((List.range count).map (ofHeight (known ++ rest))) := by
    intro rest
    induction rest with
    | nil => exact fun known _ => by rw [List.append_nil]; rfl
    | cons entry rest ih =>
      intro known hparts
      have hin : entry ∈ g.heights := by rw [hparts]; simp
      have hnext : g.heights = (known ++ [entry]) ++ rest := by rw [hparts]; simp
      have hdone := ih _ hnext
      rw [List.append_assoc, List.singleton_append] at hdone
      rw [List.map_cons, List.foldlM_cons, (mem_iff_lookup_eq_some hnodup).1 hin]
      have hplaced : place? ((List.range count).map (ofHeight known)) entry.1 entry.2 =
          some ((List.range count).map (ofHeight (known ++ [entry]))) :=
        place?_ofHeight (hbound entry hin)
      simp only [Option.bind_eq_bind, Option.bind_some, hplaced]
      exact hdone
  have hempty : List.replicate count [] = (List.range count).map (ofHeight []) :=
    List.ext_getElem (by simp) fun i _ _ => by simp [ofHeight]
  have hrun := hfrom g.heights [] rfl
  rw [List.nil_append, g.heights_spec.1, ← hempty, hcount] at hrun
  rw [layers?, hg.heights?_eq]
  exact hrun

/-- There is a layer for every height that a component has, and no other. -/
theorem getElem?_layers_iff {i : Nat} {layer : List Names} :
    g.layers[i]? = some layer ↔ layer = g.layerAt i ∧ ∃ c, (c, i) ∈ g.heights := by
  obtain ⟨count, hcount⟩ : ∃ count, count =
    g.heights.foldl (fun n (entry : Names × Nat) => max n (entry.2 + 1)) 0 := ⟨_, rfl⟩
  have hlayers : g.layers = (List.range count).map g.layerAt := by
    rw [hcount]
    rfl
  have hlt : i < count ↔ ∃ c, (c, i) ∈ g.heights := by
    constructor
    · intro hi
      obtain ⟨⟨c, h⟩, hc, htop⟩ := exists_of_foldl_max hcount.symm (Nat.ne_zero_of_lt hi).symm
      exact exists_of_le hc (by dsimp only at htop; omega)
    · rintro ⟨c, hc⟩
      rw [hcount]
      exact le_foldl_max (fun entry : Names × Nat => entry.2 + 1) g.heights 0 (c, i) hc
  rw [hlayers, ← hlt, List.getElem?_map]
  by_cases hi : i < count
  · simp [hi, eq_comm]
  · rw [List.getElem?_eq_none (by simpa using hi)]
    simp [hi]

theorem existsUnique_component (p : Program) {v : String} (hv : v ∈ p.functionIds) :
    ∃! c, c ∈ (ofProgram p).components ∧ v ∈ c := by
  have hg := built_ofProgram p
  obtain ⟨c, hc, hvc⟩ := hg.exists_component (Graph.mem_vertices_iff.2 (Or.inl (mem_keys_ofEdges hv)))
  refine ⟨c, ⟨hc, hvc⟩, ?_⟩
  rintro d ⟨hd, hvd⟩
  rw [← hg.getD_componentOf hc hvc, hg.getD_componentOf hd hvd]

/-- **The layer of a component is the length of the longest chain of components below it.**  The layers
are found for every program.  Every function is in a component, and functions are linked by the calls that
are resolved.  No layer is empty, and each component stands in one of them, above everything outside that it
calls; there is a chain of calls as long as its layer is high, and no longer one even if each component only
leads to the next. -/
theorem layers_by_height (p : Program) :
    (ofProgram p).layers? = some (ofProgram p).layers ∧
    (∀ v ∈ p.functionIds, ∃! c, c ∈ (ofProgram p).components ∧ v ∈ c) ∧
    (∀ v w, (ofProgram p).callees.Edge v w ↔
      ∃ id f, p.functions.get? id = some f ∧ f.id = v ∧ ∃ node n, f.node? node = some n ∧
        n.kind = .call ∧ n.callee = .text w ∧ w ∈ p.functionIds ∧ n.dynamic = false) ∧
    (∀ layer ∈ (ofProgram p).layers,
      layer ≠ [] ∧ layer.Nodup ∧ ∀ c ∈ layer, c ∈ (ofProgram p).components) ∧
    ∀ c ∈ (ofProgram p).components, ∃ i layer,
      (ofProgram p).layers[i]? = some layer ∧ c ∈ layer ∧
      (∀ j other, (ofProgram p).layers[j]? = some other → c ∈ other → j = i) ∧
      (∀ v ∈ c, ∀ w, (ofProgram p).callees.Edge v w → w ∉ c →
        ∃ j < i, ∃ lower, (ofProgram p).layers[j]? = some lower ∧ ∃ d ∈ lower, w ∈ d) ∧
      (∃ ds, (ofProgram p).Chain (ofProgram p).CallsInto c ds ∧ ds.length = i) ∧
      (∀ ds, (ofProgram p).Chain (ofProgram p).LeadsTo c ds → ds.length ≤ i) := by
  have hg := built_ofProgram p
  refine ⟨hg.layers?_eq, fun v hv => existsUnique_component p hv, fun v w => edge_ofProgram_iff,
    fun layer hlayer => ?_, fun c hc => ?_⟩
  · have hnodup := hg.nodup_components
    obtain ⟨i, hi⟩ := List.mem_iff_getElem?.1 hlayer
    obtain ⟨rfl, c, hc⟩ := getElem?_layers_iff.1 hi
    refine ⟨List.ne_nil_of_mem (mem_layerAt_iff.2 hc), ?_, fun d hd => ?_⟩
    · rw [← (ofProgram p).heights_spec.1] at hnodup
      exact hnodup.sublist (List.filter_sublist.map Prod.fst)
    · exact mem_components_iff.2 ⟨i, mem_layerAt_iff.1 hd⟩
  · obtain ⟨i, hci⟩ := mem_components_iff.1 hc
    refine ⟨i, _, getElem?_layers_iff.2 ⟨rfl, c, hci⟩, mem_layerAt_iff.2 hci, ?_, ?_, ?_, ?_⟩
    · rintro j other hj hcj
      obtain ⟨rfl, -⟩ := getElem?_layers_iff.1 hj
      exact hg.height_unique (mem_layerAt_iff.1 hcj) hci
    · intro v hv w hedge hout
      obtain ⟨d, j, hd, hwd⟩ := exists_height _ hg.components (Graph.mem_vertices_of_edge hedge)
      have hne : d ≠ c := fun he => hout (he ▸ hwd)
      exact ⟨j, height_lt_of_edge _ hg.components hci hd hne hv hwd hedge, _,
        getElem?_layers_iff.2 ⟨rfl, d, hd⟩, d, mem_layerAt_iff.2 hd, hwd⟩
    · obtain ⟨ds, hchain, hlength, -⟩ := hg.exists_chain hci
      exact ⟨ds, hchain, hlength⟩
    · exact fun ds hchain => hg.length_le_of_chain hci hchain

end TaintFlow.CallGraph
