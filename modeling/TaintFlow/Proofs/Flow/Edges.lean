import TaintFlow.Program.Validate
import TaintFlow.Proofs.Flow.Monotone

/-!
# Which edges an analysis records

An edge leads from a definition of a slot to a node that reads the slot.  What an analysis records is
the union, over all ways to a node, of the edges that the node shows in the state that arrives
(`Charted`), and each of them comes from a single definition (`Drawn`).  So the edges say no more than
which definitions reach which nodes.

Taint decides about definitions at one place: a call defines an argument or a global that the called
function writes to only if some label is delivered there, unless it defines the slot in any case
(`Frame.Wakes`).  Two analyses of a function that agree on these slots have the same edges, and the
edges of any analysis are among those of the symbolic one.
-/

namespace TaintFlow

/-- The edges that a state gives come from its definitions one by one. -/
def Drawn (edges : State → List FlowEdge) : Prop :=
  ∀ s e, e ∈ edges s → (∀ t, e ∈ edges t) ∨
    ∃ x, s.DefinedBy x e.src ∧ ∀ t : State, t.DefinedBy x e.src → e ∈ edges t

namespace Drawn

variable {edges edges' : State → List FlowEdge}

theorem const (l : List FlowEdge) : Drawn (fun _ => l) := fun _ _ he => Or.inl fun _ => he

theorem append (h : Drawn edges) (h' : Drawn edges') : Drawn (fun s => edges s ++ edges' s) := by
  intro s e he
  rcases List.mem_append.1 he with he | he
  · rcases h s e he with hall | ⟨x, hx, hedge⟩
    · exact Or.inl fun t => List.mem_append_left _ (hall t)
    · exact Or.inr ⟨x, hx, fun t ht => List.mem_append_left _ (hedge t ht)⟩
  · rcases h' s e he with hall | ⟨x, hx, hedge⟩
    · exact Or.inl fun t => List.mem_append_right _ (hall t)
    · exact Or.inr ⟨x, hx, fun t ht => List.mem_append_right _ (hedge t ht)⟩

theorem flatMap {α : Type} {l : List α} {edges : α → State → List FlowEdge}
    (h : ∀ a, Drawn (edges a)) : Drawn (fun s => l.flatMap (fun a => edges a s)) := by
  intro s e he
  obtain ⟨a, ha, he⟩ := List.mem_flatMap.1 he
  rcases h a s e he with hall | ⟨x, hx, hedge⟩
  · exact Or.inl fun t => List.mem_flatMap.2 ⟨a, ha, hall t⟩
  · exact Or.inr ⟨x, hx, fun t ht => List.mem_flatMap.2 ⟨a, ha, hedge t ht⟩⟩

theorem defs (slot : Option Slot) (edge : String → FlowEdge) (hsrc : ∀ d, (edge d).src = d) :
    Drawn (fun s => (s.defsOf slot).toList.map edge) := by
  intro s e he
  obtain ⟨d, hd, rfl⟩ := List.mem_map.1 he
  cases slot with
  | none => cases hd
  | some x =>
    refine Or.inr ⟨x, ?_, fun t ht => List.mem_map.2 ⟨d, ?_, rfl⟩⟩
    · rw [hsrc]
      exact hd
    · rw [hsrc] at ht
      exact ht

theorem useEdges (kind : EdgeKind) (key : String) (slots : List (Option Slot)) :
    Drawn (TaintFlow.useEdges kind key slots) :=
  flatMap fun slot => defs slot _ fun _ => rfl

theorem callEdges (n : Node) (key callee : String) : Drawn (n.callEdges key callee) := by
  refine append (flatMap fun arg => defs _ _ fun _ => rfl) ?_
  cases n.receiverSlot? with
  | none => exact const []
  | some slot => exact defs _ _ fun _ => rfl

end Drawn

namespace Frame

/-! ### The edges of one visit -/

def sinkEdges (frame : Frame) (key : String) (n : Node) (s : State) : List FlowEdge :=
  match frame.rules.sink? n.api with
  | some rule => useEdges .plain key (n.checkedArgs rule) s
  | none => []

def roleEdges (frame : Frame) (key : String) (n : Node) (s : State) : List FlowEdge :=
  match frame.role n with
  | .source _ => []
  | .sanitizer => n.readEdges .plain key s
  | .resolved callee effect => n.callEdges key callee s ++ effect.returnEdges key
  | .degraded => n.readEdges .unknown key s
  | .unresolved =>
    if (frame.rules.sink? n.api).isSome then [] else n.readEdges .unknown key s

/-- The edges that a node shows in the state before it. -/
def edgesAt (frame : Frame) (id : String) (n : Node) (s : State) : List FlowEdge :=
  match n.kind with
  | .assign | .ret => n.operandEdges (frame.function.key id) s
  | .call => frame.sinkEdges (frame.function.key id) n s ++
      frame.roleEdges (frame.function.key id) n s
  | .branch | .nop => []

theorem drawn_edgesAt (frame : Frame) (id : String) (n : Node) : Drawn (frame.edgesAt id n) := by
  have hsink : ∀ key, Drawn (frame.sinkEdges key n) := by
    intro key
    unfold sinkEdges
    cases frame.rules.sink? n.api with
    | none => exact .const []
    | some rule => exact .useEdges _ _ _
  have hrole : ∀ key, Drawn (frame.roleEdges key n) := by
    intro key
    unfold roleEdges
    cases frame.role n with
    | source rule => exact .const []
    | sanitizer => exact .useEdges _ _ _
    | resolved callee effect => exact (Drawn.callEdges n key callee).append (.const _)
    | degraded => exact .useEdges _ _ _
    | unresolved =>
      by_cases h : (frame.rules.sink? n.api).isSome = true
      · simp only [h, if_true]
        exact .const []
      · simp only [h, Bool.false_eq_true, if_false]
        exact .useEdges _ _ _
  unfold edgesAt
  cases n.kind with
  | assign => exact .useEdges _ _ _
  | ret => exact .useEdges _ _ _
  | call => exact (hsink _).append (hrole _)
  | branch => exact .const []
  | nop => exact .const []

theorem drawn_globalEdges (frame : Frame) : Drawn frame.globalEdges := by
  refine .flatMap fun name => ?_
  intro s e he
  obtain ⟨d, hd, rfl⟩ := List.mem_map.1 he
  obtain ⟨hd, hne⟩ := OrderedSet.mem_erase.1 hd
  exact Or.inr ⟨.text name, hd, fun t ht =>
    List.mem_map.2 ⟨d, OrderedSet.mem_erase.2 ⟨ht, hne⟩, rfl⟩⟩

theorem edges_observeSink (frame : Frame) (id key : String) (n : Node) (s : State) (o : Observations) :
    (frame.observeSink id key n s o).edges = o.edges.insertAll (frame.sinkEdges key n s) := by
  unfold observeSink sinkEdges
  cases frame.rules.sink? n.api <;> rfl

theorem mem_edges_observe {frame : Frame} {id : String} {n : Node} {s : State} {o : Observations}
    {e : FlowEdge} : e ∈ (frame.observe id n s o).edges ↔ e ∈ o.edges ∨ e ∈ frame.edgesAt id n s := by
  unfold observe edgesAt
  cases n.kind with
  | assign =>
    unfold observeTainted
    dsimp only
    split <;> simp [Observations.addEdges]
  | ret => simp [Observations.addEdges]
  | branch => simp
  | nop => simp
  | call =>
    unfold observeCall roleEdges
    dsimp only
    cases frame.role n with
    | source rule => simp [Observations.addOrigin, edges_observeSink]
    | unresolved =>
      dsimp only
      split <;> simp [Observations.addEdges, edges_observeSink, or_assoc]
    | _ => simp [Observations.addEdges, Observations.addOrigin, edges_observeSink, or_assoc]

/-! ### The edges of a worklist -/

variable {frame : Frame} {inputs inputs' : KeyMap TaintSet} {p p' : Progress}

/-- Some way to a node shows the edge there. -/
def ShowsEdge (frame : Frame) (inputs : KeyMap TaintSet) (e : FlowEdge) : Prop :=
  ∃ ids id n, frame.function.Path ids id ∧ frame.function.node? id = some n ∧
    e ∈ frame.edgesAt id n (frame.arriving inputs ids)

/-- The recorded edges are shown on ways to the nodes, and a node that is not queued has recorded
its own. -/
structure Charted (frame : Frame) (inputs : KeyMap TaintSet) (p : Progress) : Prop where
  shown : ∀ e ∈ p.seen.edges, frame.ShowsEdge inputs e
  recorded : ∀ id s n, p.before.get? id = some s → id ∉ p.queue → frame.function.node? id = some n →
    ∀ e ∈ frame.edgesAt id n s, e ∈ p.seen.edges

theorem edges_entryObservations (frame : Frame) : frame.entryObservations.edges = ∅ := by
  refine List.foldlRecOn (motive := fun o : Observations => o.edges = ∅) _ _ rfl fun o h entry _ => ?_
  dsimp only
  cases entry.2.origin <;> exact h

theorem charted_start (frame : Frame) (inputs : KeyMap TaintSet) :
    frame.Charted inputs (frame.start inputs) where
  shown e he := by
    have he : e ∈ frame.entryObservations.edges := he
    rw [frame.edges_entryObservations] at he
    exact absurd he (OrderedSet.not_mem_empty e)
  recorded id s n hs hid := by
    have hs : (OrderedMap.empty.set frame.function.entry (frame.entryState inputs)).get? id
      = some s := hs
    rw [OrderedMap.get?_set] at hs
    split at hs
    · next he => exact absurd (he ▸ List.mem_cons_self) hid
    · cases hs

theorem Explained.showsEdge {id : String} {n : Node} {s : State} {e : FlowEdge}
    (h : frame.Explained inputs id s) (hnode : frame.function.node? id = some n)
    (he : e ∈ frame.edgesAt id n s) : frame.ShowsEdge inputs e := by
  rcases frame.drawn_edgesAt id n s e he with hall | ⟨x, hx, hedge⟩
  · obtain ⟨ids, hpath⟩ := h.reached
    exact ⟨ids, id, n, hpath, hnode, hall _⟩
  · obtain ⟨ids, hpath, hd⟩ := h.definedBy x e.src hx
    exact ⟨ids, id, n, hpath, hnode, hedge _ hd⟩

theorem Charted.visit (h : frame.Charted inputs p) (hinv : frame.Invariant inputs p)
    (hvisit : frame.Visits p p') : frame.Charted inputs p' := by
  obtain ⟨id, n, s, v⟩ := hinv.exists_visit hvisit
  constructor
  · intro e he
    rw [v.seen_eq, mem_edges_observe] at he
    rcases he with he | he
    · exact h.shown e he
    · exact (hinv.explained id s v.before).showsEdge v.node he
  · intro other t m ht hother hm e he
    rw [v.seen_eq, mem_edges_observe]
    -- a state that has changed is queued, so this one is as it was before the visit
    have hold : p.before.get? other = some t := (v.flowed.changed other t ht).resolve_right hother
    by_cases hsame : other = id
    · subst hsame
      have hts : t = s := Option.some.inj (hold.symm.trans v.before)
      have hmn : m = n := Option.some.inj (hm.symm.trans v.node)
      exact Or.inr (hts ▸ hmn ▸ he)
    · exact Or.inl (h.recorded other t m hold (fun hq => hother (v.mem_queue hsame hq)) hm e he)

theorem charted_of_visits (h : Relation.ReflTransGen frame.Visits (frame.start inputs) p) :
    frame.Charted inputs p := by
  induction h with
  | refl => exact frame.charted_start inputs
  | tail hprior hvisit ih => exact ih.visit (invariant_of_visits hprior) hvisit

/-- **The edges of a worklist that ran empty are those that the paths show.** -/
theorem mem_edges_iff (h : frame.Completes inputs p) {e : FlowEdge} :
    e ∈ p.seen.edges ↔ frame.ShowsEdge inputs e := by
  have hcharted := charted_of_visits h.1
  refine ⟨hcharted.shown e, ?_⟩
  rintro ⟨ids, id, n, hpath, hnode, he⟩
  obtain ⟨s, hs, hwithin⟩ := (invariant_of_visits h.1).within_of_path h.2 hpath
  refine hcharted.recorded id s n hs (by simp [h.2]) hnode e ?_
  rcases frame.drawn_edgesAt id n _ e he with hall | ⟨x, hx, hedge⟩
  · exact hall s
  · exact hedge s (hwithin.2 x e.src hx)

/-! ### Definitions that depend on taint -/

/-- Some path brings a call a label for which it defines the slot, and without labels it would not. -/
def Wakes (frame : Frame) (inputs : KeyMap TaintSet) (id : String) (x : Slot) : Prop :=
  ∃ n y i, frame.function.node? id = some n ∧ (frame.wiring n).wakes y x ∧
    ¬ (frame.wiring n).writes x ∧ frame.Brings inputs id y i

def Reaching (frame : Frame) (inputs : KeyMap TaintSet) (id : String) (x : Slot) (d : String) : Prop :=
  ∃ ids, frame.function.Path ids id ∧ (frame.arriving inputs ids).DefinedBy x d

/-- If all slots that the first inputs wake are woken by the second ones, a definition that gets
through a node from the first inputs does so from the second ones. -/
theorem exists_definedBy_after (hwakes : ∀ id x, frame.Wakes inputs id x → frame.Wakes inputs' id x)
    {ids : List String} {id : String} {n : Node} {x : Slot} {d : String}
    (hpath : frame.function.Path ids id) (hnode : frame.function.node? id = some n)
    (hbefore : ∀ x d, (frame.arriving inputs ids).DefinedBy x d → frame.Reaching inputs' id x d)
    (hd : (frame.arriving inputs (ids ++ [id])).DefinedBy x d) :
    ∃ ids', frame.function.Path ids' id ∧ (frame.arriving inputs' (ids' ++ [id])).DefinedBy x d := by
  have hw := frame.describes_transfer id n
  rw [arriving_concat hnode, hw.definedBy_iff] at hd
  rcases hd with ⟨hkeeps, hd⟩ | ⟨rfl, hdefines⟩
  · obtain ⟨ids', hpath', hd'⟩ := hbefore x d hd
    refine ⟨ids', hpath', ?_⟩
    rw [arriving_concat hnode, hw.definedBy_iff]
    exact Or.inl ⟨hkeeps, hd'⟩
  · by_cases hwrites : (frame.wiring n).writes x
    · refine ⟨ids, hpath, ?_⟩
      rw [arriving_concat hnode, hw.definedBy_iff]
      exact Or.inr ⟨rfl, Or.inl hwrites⟩
    · obtain ⟨y, hy, i, hi⟩ := hdefines.resolve_left hwrites
      obtain ⟨m, z, j, hm, hz, -, ids', hpath', hj⟩ :=
        hwakes id x ⟨n, y, i, hnode, hy, hwrites, ids, hpath, hi⟩
      have hmn : m = n := Option.some.inj (hm.symm.trans hnode)
      subst hmn
      refine ⟨ids', hpath', ?_⟩
      rw [arriving_concat hnode, hw.definedBy_iff]
      exact Or.inr ⟨rfl, Or.inr ⟨z, hz, j, hj⟩⟩

theorem reaching_of_path (hwakes : ∀ id x, frame.Wakes inputs id x → frame.Wakes inputs' id x)
    {ids : List String} {id : String} (hpath : frame.function.Path ids id) {x : Slot} {d : String}
    (hd : (frame.arriving inputs ids).DefinedBy x d) : frame.Reaching inputs' id x d := by
  induction hpath generalizing x d with
  | entry =>
    refine ⟨[], .entry, ?_⟩
    have hdefs := frame.defs_entryState inputs inputs'
    unfold arriving State.DefinedBy State.defsOf at hd ⊢
    rwa [along_nil, ← hdefs]
  | @step ids id succ n hprior hnode hsucc ih =>
    obtain ⟨ids', hpath', hd'⟩ := exists_definedBy_after hwakes hprior hnode (fun y e => ih) hd
    exact ⟨ids' ++ [id], hpath'.step hnode hsucc, hd'⟩

theorem exitDefined_of_wakes (hwakes : ∀ id x, frame.Wakes inputs id x → frame.Wakes inputs' id x)
    {x : Slot} {d : String} (h : frame.Yields inputs (.exitDefined x d)) :
    frame.Yields inputs' (.exitDefined x d) := by
  obtain ⟨ids, id, hpath, hleaves, hd⟩ := h
  cases hnode : frame.function.node? id with
  | none =>
    rw [leavesAt, hnode] at hleaves
    cases hleaves
  | some n =>
    obtain ⟨ids', hpath', hd'⟩ := exists_definedBy_after hwakes hpath hnode
      (fun y e he => reaching_of_path hwakes hpath he) hd
    exact ⟨ids', id, hpath', hleaves, hd'⟩

variable {visits visits' : Amount} {a a' : Analysis}

theorem mem_edges_finish {e : FlowEdge} : e ∈ (frame.finish p).seen.edges ↔
    e ∈ p.seen.edges ∨ e ∈ frame.globalEdges (frame.exitState p) :=
  OrderedSet.mem_insertAll

/-- **If all slots that the first inputs wake are woken by the second ones, so are the edges kept.** -/
theorem edges_subset_of_wakes (h : frame.analyze visits inputs = .ok a)
    (h' : frame.analyze visits' inputs' = .ok a')
    (hwakes : ∀ id x, frame.Wakes inputs id x → frame.Wakes inputs' id x) {e : FlowEdge}
    (he : e ∈ a.seen.edges) : e ∈ a'.seen.edges := by
  obtain ⟨p, hp, rfl⟩ := analyze_eq_ok h
  obtain ⟨q, hq, rfl⟩ := analyze_eq_ok h'
  rw [mem_edges_finish] at he ⊢
  rcases he with he | he
  · refine Or.inl ((mem_edges_iff hq).2 ?_)
    obtain ⟨ids, id, n, hpath, hnode, he⟩ := (mem_edges_iff hp).1 he
    rcases frame.drawn_edgesAt id n _ e he with hall | ⟨x, hx, hedge⟩
    · exact ⟨ids, id, n, hpath, hnode, hall _⟩
    · obtain ⟨ids', hpath', hx'⟩ := reaching_of_path hwakes hpath hx
      exact ⟨ids', id, n, hpath', hnode, hedge _ hx'⟩
  · refine Or.inr ?_
    rcases frame.drawn_globalEdges _ e he with hall | ⟨x, hx, hedge⟩
    · exact hall _
    · refine hedge _ (((invariant_of_visits hq.1).definedBy_exitState_iff hq.2 x e.src).2 ?_)
      exact exitDefined_of_wakes hwakes
        (((invariant_of_visits hp.1).definedBy_exitState_iff hp.2 x e.src).1 hx)

/-- Where any inputs bring a label, the markers of the inputs bring one too. -/
theorem exists_brings_symbolic {id : String} {x : Slot} {i : Identity}
    (h : frame.Brings inputs id x i) :
    ∃ j, frame.Brings (frame.function.symbolicInputs frame.globals) id x j := by
  obtain ⟨ids, hpath, hi⟩ := h
  rcases (carries_along_iff frame ids _ x i).1 hi with hmakes | ⟨y, hy, hi⟩
  · exact ⟨i, ids, hpath, (carries_along_iff frame ids _ x i).2 (Or.inl hmakes)⟩
  · have hinput := (carries_entryState_iff.1 hi).1
    obtain ⟨m, hm⟩ := Function.isInput_iff_exists_marks.1 hinput
    have hmarker : ((frame.function.symbolicInputs frame.globals).getD y ∅).has
        (markerIdentity m) = true := Function.has_symbolicInputs_iff.2 ⟨m, rfl, hm⟩
    exact ⟨markerIdentity m, ids, hpath, (carries_along_iff frame ids _ x _).2
      (Or.inr ⟨y, hy, carries_entryState_iff.2 ⟨hinput, hmarker⟩⟩)⟩

/-- **Edges depend on taint through the slots that calls are woken to define, and through nothing
else.**  Two analyses of a function that wake the same slots record the same edges, and the symbolic
analysis records the edges of any other one. -/
theorem edges_of_analyze (h : frame.analyze visits inputs = .ok a)
    (h' : frame.analyze visits' inputs' = .ok a') :
    ((∀ id x, frame.Wakes inputs id x ↔ frame.Wakes inputs' id x) → a.seen.edges = a'.seen.edges) ∧
      (inputs' = frame.function.symbolicInputs frame.globals →
        ∀ e ∈ a.seen.edges, e ∈ a'.seen.edges) := by
  constructor
  · intro hwakes
    refine OrderedSet.eq_of_mem_iff fun e => ⟨?_, ?_⟩
    · exact edges_subset_of_wakes h h' fun id x => (hwakes id x).1
    · exact edges_subset_of_wakes h' h fun id x => (hwakes id x).2
  · rintro rfl e he
    refine edges_subset_of_wakes h h' ?_ he
    rintro id x ⟨n, y, i, hnode, hy, hwrites, hi⟩
    obtain ⟨j, hj⟩ := exists_brings_symbolic hi
    exact ⟨n, y, j, hnode, hy, hwrites, hj⟩

end Frame

/-! ### A called function that fills its argument -/

def fillCall : Node :=
  { Node.bare .call ["end"] with callee := .text "fill", args := [some "x", some "y"] }

/-- `fill` copies its first argument into its second one. -/
def fillEffect : Effect where
  transfers := .singleton ⟨.text (paramMarker 0), .text (paramMarker 1), false⟩
  generated := ∅
  exitDefs := OrderedMap.empty.set (paramMarker 1) (.singleton "fill::copy")
  unknown := false

def filling : Frame where
  function := .bare "f" "call" ["x", "y"]
    [("call", fillCall), ("end", { Node.bare .ret [] with operands := ["y"] })]
  rules := .empty ∅
  effects callee := if callee = "fill" then some fillEffect else none
  globals := ∅
  known := .ofList ["f", "fill"]

theorem wakes_filling_iff {inputs : KeyMap TaintSet}
    (h : ∃ i, (inputs.getD (.text "x") ∅).has i = true) (id : String) (x : Slot) :
    filling.Wakes inputs id x ↔ id = "call" ∧ x = .text "y" := by
  have hwiring : filling.wiring fillCall = fillEffect.wiring ∅ fillCall := rfl
  constructor
  · rintro ⟨n, y, i, hnode, hwakes, -, -⟩
    have hmem : (id, n) ∈ filling.function.nodes.entries := Table.mem_entries_iff.2 hnode
    have hentries : filling.function.nodes.entries =
        [("call", fillCall), ("end", { Node.bare .ret [] with operands := ["y"] })] := rfl
    rw [hentries] at hmem
    rcases List.mem_cons.1 hmem with he | hmem
    · cases he
      rw [hwiring] at hwakes
      obtain ⟨output, hslot, t, ht, rfl, -⟩ := hwakes
      rw [OrderedSet.mem_singleton.1 ht] at hslot
      exact ⟨rfl, (Option.some.inj hslot).symm⟩
    · cases List.mem_singleton.1 hmem
      exact hwakes.elim
  · rintro ⟨rfl, rfl⟩
    obtain ⟨i, hi⟩ := h
    have hinput : filling.function.IsInput ∅ (.text "x") :=
      ⟨paramMarker 0, .param (p := ⟨"x", none, false, none⟩) rfl⟩
    have hentry : (filling.entryState inputs).Carries (.text "x") i :=
      Frame.carries_entryState_iff.2 ⟨hinput, hi⟩
    refine ⟨fillCall, .text "x", i, rfl, ?_, ?_, [], .entry, hentry⟩
    · rw [hwiring]
      exact ⟨.text (paramMarker 1), rfl, _, OrderedSet.mem_singleton.2 rfl, rfl, paramMarker 0, rfl, rfl⟩
    · rw [hwiring]
      rintro (htarget | ⟨output, -, j, name, -, hmakes⟩ | ⟨output, -, name, -, hname, -⟩)
      · cases htarget
      · cases hmakes
      · exact OrderedSet.not_mem_empty name hname

/-- With a label in `x` the analysis has the edges of the symbolic one. -/
theorem edges_of_analyze_filling : ∃ a a',
    filling.analyze (.whole 5) (OrderedMap.empty.set (.text "x") (.of (.source .header "h::n" none))) =
      .ok a ∧
    filling.analyze (.whole 9) (filling.function.symbolicInputs filling.globals) = .ok a' ∧
    a.seen.edges = a'.seen.edges := by
  obtain ⟨a, ha, -⟩ := Result.exists_ok_of_any (p := fun _ => true)
    (r := filling.analyze (.whole 5)
      (OrderedMap.empty.set (.text "x") (.of (.source .header "h::n" none)))) (by decide +kernel)
  obtain ⟨a', ha', -⟩ := Result.exists_ok_of_any (p := fun _ => true)
    (r := filling.analyze (.whole 9) (filling.function.symbolicInputs filling.globals))
    (by decide +kernel)
  refine ⟨a, a', ha, ha', (Frame.edges_of_analyze ha ha').1 fun id x => ?_⟩
  rw [wakes_filling_iff ⟨⟨.singleton .header, none, ∅⟩, by decide⟩,
    wakes_filling_iff ⟨markerIdentity (paramMarker 0), by decide⟩]

/-- **Without a label in `x` the call does not define `y`**, and the edge from the call to its use is
missing. -/
theorem not_edges_filling : filling.function.isValid filling.known = true ∧ ∃ a a',
    filling.analyze (.whole 5) ∅ = .ok a ∧
    filling.analyze (.whole 5) (filling.function.symbolicInputs filling.globals) = .ok a' ∧
    a.seen.edges ≠ a'.seen.edges := by
  refine ⟨by decide +kernel, ?_⟩
  let use : FlowEdge := ⟨"f::call", "f::end", .plain, some (.text "y"), none⟩
  obtain ⟨a, ha, hmissing⟩ := Result.exists_ok_of_any (r := filling.analyze (.whole 5) ∅)
    (p := fun a => decide (use ∉ a.seen.edges)) (by decide +kernel)
  obtain ⟨a', ha', hshown⟩ := Result.exists_ok_of_any
    (r := filling.analyze (.whole 5) (filling.function.symbolicInputs filling.globals))
    (p := fun a => decide (use ∈ a.seen.edges)) (by decide +kernel)
  refine ⟨a, a', ha, ha', fun he => ?_⟩
  rw [decide_eq_true_eq] at hmissing hshown
  exact hmissing (he ▸ hshown)

end TaintFlow
