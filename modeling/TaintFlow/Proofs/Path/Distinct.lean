import Mathlib.Data.List.Forall2
import TaintFlow.Proofs.Path.Search
import TaintFlow.Proofs.Scan.Flows

/-!
# Which routes a search finds

A search branches on edges, and what it returns are nodes.  So its result is told by the edges first: the
search goes along edges (`Traces`), no two of its branches go the same way (`Apart`), and what it finds
are different routes, all that it admits unless a limit is met (`exists_routes`).

Two things follow about nodes.  A node that is already on a path is not gone to again, except that the
edges into the sink are taken as they are: a sink that feeds its own argument is on a path twice
(`nodup_of_paths`).  And two routes may lead along the same nodes, by edges that differ in their slot,
kind or site, so that one path is returned twice (`exists_distinct_routes`).
-/

namespace TaintFlow

namespace FlowPath

/-- Neither of two ways back from a sink is part of the other one. -/
structure Apart (es es' : List FlowEdge) : Prop where
  left : ¬ es <:+ es'
  right : ¬ es' <:+ es

def Parallel (es es' : List FlowEdge) : Prop :=
  es.Forall₂ (fun e e' => e.src = e'.src ∧ e.dst = e'.dst) es'

theorem Apart.symm {es es' : List FlowEdge} (h : Apart es es') : Apart es' es := ⟨h.right, h.left⟩

theorem Apart.cons {es es' : List FlowEdge} (h : Apart es es') (e : FlowEdge) : Apart es (e :: es') := by
  refine ⟨fun hsuffix => ?_, fun hsuffix => h.right ((List.suffix_cons e es').trans hsuffix)⟩
  rcases List.suffix_cons_iff.1 hsuffix with rfl | hsuffix
  · exact h.right (List.suffix_cons e es')
  · exact h.left hsuffix

theorem apart_of_ne {e e' : FlowEdge} (h : e ≠ e') (es : List FlowEdge) :
    Apart (e :: es) (e' :: es) := by
  have hnot : ∀ {a b : FlowEdge}, a ≠ b → ¬ (a :: es) <:+ (b :: es) := fun hne hsuffix =>
    hne (List.cons.inj (hsuffix.eq_of_length rfl)).1
  exact ⟨hnot h, hnot h.symm⟩

/-- One of some ways that are apart is replaced by different ones that go one edge further. -/
theorem pairwise_apart_extend {found others : List (List FlowEdge)} {es : List FlowEdge}
    {next : List FlowEdge} (h : (found ++ es :: others).Pairwise Apart) (hnext : next.Nodup) :
    (found ++ (next.map (· :: es) ++ others)).Pairwise Apart := by
  obtain ⟨hfound, hrest, hacross⟩ := List.pairwise_append.1 h
  obtain ⟨hes, hothers⟩ := List.pairwise_cons.1 hrest
  refine List.pairwise_append.2 ⟨hfound, List.pairwise_append.2 ⟨?_, hothers, ?_⟩, ?_⟩
  · exact List.pairwise_map.2 (hnext.imp fun hne => apart_of_ne hne es)
  · intro way hway other hother
    obtain ⟨e, -, rfl⟩ := List.mem_map.1 hway
    exact ((hes other hother).symm.cons e).symm
  · intro way hway other hother
    rcases List.mem_append.1 hother with hother | hother
    · obtain ⟨e, -, rfl⟩ := List.mem_map.1 hother
      exact (hacross way hway es List.mem_cons_self).cons e
    · exact hacross way hway other (List.mem_cons_of_mem es hother)

theorem parallel_iff {es es' : List FlowEdge} (hne : es ≠ []) (hne' : es' ≠ [])
    (hjoined : es.IsChain (fun e next => e.dst = next.src))
    (hjoined' : es'.IsChain (fun e next => e.dst = next.src)) :
    Parallel es es' ↔ nodesAlong es = nodesAlong es' := by
  induction es generalizing es' with
  | nil => exact absurd rfl hne
  | cons e es ih =>
    cases es' with
    | nil => exact absurd rfl hne'
    | cons e' es' =>
      simp only [Parallel, List.forall₂_cons] at ih ⊢
      cases es with
      | nil =>
        cases es' with
        | nil => simp [nodesAlong]
        | cons next' es' => simp [nodesAlong]
      | cons next es =>
        cases es' with
        | nil => simp [nodesAlong]
        | cons next' es' =>
          obtain ⟨hjoin, hjoined⟩ := List.isChain_cons_cons.1 hjoined
          obtain ⟨hjoin', hjoined'⟩ := List.isChain_cons_cons.1 hjoined'
          rw [ih (List.cons_ne_nil _ _) (List.cons_ne_nil _ _) hjoined hjoined',
            nodesAlong_cons_cons es hjoin, nodesAlong_cons_cons es' hjoin', List.cons.injEq, and_assoc]
          refine and_congr_right fun _ => and_iff_right_of_imp fun hnodes => ?_
          rw [hjoin, hjoin']
          exact (List.cons.inj hnodes).1

end FlowPath

open FlowPath

/-- A route into the sink's argument that the search may find: it is not too long, and it leaves no node
twice. -/
structure PathSearch.Admits (s : PathSearch) (sink : String) (slot : Option Key)
    (es : List FlowEdge) : Prop where
  route : s.graph.Route s.origin sink slot es
  once : LeavesOnce sink es
  short : ((nodesAlong es).length : Int) ≤ s.limits.maxDepth

namespace PathSearch

variable {s : PathSearch} {sink : String} {slot : Option Key}

theorem admits_of_traces {p : PartialPath} {es : List FlowEdge} (h : s.Traces sink slot p es)
    (hcarries : s.graph.carries s.origin p.node = true) : s.Admits sink slot es where
  route := by
    obtain ⟨e, he, hsrc⟩ := h.tracks.follows.node
    exact ⟨h.tracks.approach, e, he, hsrc ▸ hcarries⟩
  once := h.leavesOnce
  short := by
    rw [length_nodesAlong h.ne_nil]
    exact_mod_cast h.tracks.short

theorem exists_traces_of_admits {g : FlowGraph} {limits : SearchLimits} {origin : Origin}
    {es : List FlowEdge} (h : (g.searchFor limits origin).Admits sink slot es) :
    ∃ p, (g.searchFor limits origin).Traces sink slot p es ∧ g.carries origin p.node = true := by
  obtain ⟨e, he, hcarries⟩ := h.route.starts
  cases es with
  | nil => cases he
  | cons first es =>
    cases he
    have hshort := h.short
    rw [length_nodesAlong (List.cons_ne_nil _ _), List.length_cons] at hshort
    have hdepth : ((0 : Nat) : Int) + es.length + 2 ≤ limits.maxDepth := by
      have hlimits : (g.searchFor limits origin).limits.maxDepth = limits.maxDepth := rfl
      push_cast at hshort ⊢
      omega
    obtain ⟨p, hp⟩ := exists_traces limits h.route.toApproach (.enter hcarries) h.once hdepth
    obtain ⟨_, hfirst, hnode⟩ := hp.tracks.follows.node
    cases hfirst
    exact ⟨p, hp, hnode ▸ hcarries⟩

/-! ### The branches of the search -/

theorem nodup_into (g : FlowGraph) (key : String) : (g.into key).Nodup :=
  g.edges.nodup_toList.filter _

theorem exists_forall₂_filterMap {α β : Type} (f : α → Option β) {l : List α} (hl : l.Nodup) :
    ∃ l' : List α, l'.Nodup ∧ (l.filterMap f).Forall₂ (fun b a => a ∈ l ∧ f a = some b) l' ∧
      ∀ a ∈ l, ∀ b, f a = some b → a ∈ l' := by
  refine ⟨l.filter (fun a => (f a).isSome), hl.filter _, ?_, fun a ha b hb =>
    List.mem_filter.2 ⟨ha, by rw [hb]; rfl⟩⟩
  clear hl
  induction l with
  | nil => exact .nil
  | cons a l ih =>
    have hrest := ih.imp fun b a' h =>
      (⟨List.mem_cons_of_mem a h.1, h.2⟩ : a' ∈ a :: l ∧ f a' = some b)
    cases ha : f a with
    | none =>
      rw [List.filterMap_cons_none ha, List.filter_cons_of_neg (by simp [ha])]
      exact hrest
    | some b =>
      rw [List.filterMap_cons_some ha, List.filter_cons_of_pos (by simp [ha])]
      exact .cons ⟨List.mem_cons_self, ha⟩ hrest

theorem takes_iff {p q : PartialPath} {e : FlowEdge}
    (hcarries : s.graph.carries s.origin p.node = false) : s.Takes p e q ↔ e ∈ s.graph.into p.node ∧
      (if e.src ∈ p.back ∨ s.reachable e.src (p.back.length + 1) = false then none
        else p.along? e) = some q := by
  rw [mem_into_iff]
  constructor
  · rintro ⟨-, he, hdst, hback, hreach, hq⟩
    exact ⟨⟨he, hdst⟩, by rw [if_neg (by simp [hback, hreach]), hq]⟩
  · rintro ⟨⟨he, hdst⟩, hq⟩
    split at hq
    · cases hq
    · next hnot =>
      rw [not_or, Bool.not_eq_false] at hnot
      exact ⟨hcarries, he, hdst, hnot.1, hnot.2, hq⟩

/-- The branches of a partial path go along different edges, each that it can be taken along. -/
theorem exists_branches {p : PartialPath} (hcarries : s.graph.carries s.origin p.node = false) :
    ∃ next : List FlowEdge, next.Nodup ∧ (s.extend p).Forall₂ (fun q e => s.Takes p e q) next ∧
      ∀ e q, s.Takes p e q → e ∈ next := by
  obtain ⟨next, hnodup, hbranches, hall⟩ := exists_forall₂_filterMap (fun e =>
    if e.src ∈ p.back ∨ s.reachable e.src (p.back.length + 1) = false then none else p.along? e)
    (nodup_into s.graph p.node)
  refine ⟨next, hnodup, hbranches.imp fun _ _ h => (takes_iff hcarries).2 h, fun e q htakes => ?_⟩
  obtain ⟨he, hq⟩ := (takes_iff hcarries).1 htakes
  exact hall e he q hq

/-- So do the partial paths at the start. -/
theorem exists_first_branches (s : PathSearch) (sink : String) (slot : Option Key) :
    ∃ first : List FlowEdge, first.Nodup ∧
      (s.start sink slot).Forall₂ (s.Traces sink slot) (first.map ([·])) ∧
      ∀ p e, s.Traces sink slot p [e] → e ∈ first := by
  refine ⟨(s.graph.into sink).filter fun e =>
    e.kind = .plain ∧ e.slot = slot ∧ s.reachable e.src 2 = true,
    (nodup_into s.graph sink).filter _, ?_, ?_⟩
  · rw [start, List.forall₂_map_left_iff, List.forall₂_map_right_iff, List.forall₂_same]
    intro e he
    obtain ⟨he, hstart⟩ := List.mem_filter.1 he
    obtain ⟨hedge, rfl⟩ := mem_into_iff.1 he
    obtain ⟨hkind, hslot, hreach⟩ := of_decide_eq_true hstart
    exact .start hedge hkind hslot rfl hreach
  · intro p e h
    cases h with
    | start he hkind hslot hdst hreach =>
      exact List.mem_filter.2 ⟨mem_into_iff.2 ⟨he, hdst⟩, decide_eq_true ⟨hkind, hslot, hreach⟩⟩
    | step hprior => exact absurd rfl hprior.ne_nil

/-! ### The routes of the search -/

/-- What a search finds and still has on its stack are partial paths along ways that are apart.  Each of
them that arrives is found, and unless a limit is met, so is everything that it is part of. -/
theorem exists_routes_loop (fuel : Nat) {stack : List PartialPath} (found : Found)
    {ways routes : List (List FlowEdge)} (hstack : stack.Forall₂ (s.Traces sink slot) ways)
    (hfound : found.paths = routes.map .along) (hapart : (routes ++ ways).Pairwise Apart) :
    ∃ routes' : List (List FlowEdge),
      (s.loop fuel stack found).paths = routes'.map .along ∧ routes'.Pairwise Apart ∧
      (∀ es ∈ routes', es ∈ routes ∨
        ∃ p, s.Traces sink slot p es ∧ s.graph.carries s.origin p.node = true) ∧
      ((s.loop fuel stack found).paths.length < s.limits.maxPaths →
        (s.loop fuel stack found).exhausted = false →
        (∀ es ∈ routes, es ∈ routes') ∧ ∀ way ∈ ways, ∀ p es, s.Traces sink slot p es →
          s.graph.carries s.origin p.node = true → way <:+ es → es ∈ routes') := by
  fun_induction s.loop fuel stack found generalizing ways routes with
  | case1 found fuel =>
    cases hstack
    rw [List.append_nil] at hapart
    exact ⟨routes, hfound, hapart, fun es hes => Or.inl hes, fun _ _ =>
      ⟨fun es hes => hes, fun way hway => absurd hway List.not_mem_nil⟩⟩
  | case2 found p stack hfull =>
    exact ⟨routes, hfound, (List.pairwise_append.1 hapart).1, fun es hes => Or.inl hes,
      fun hroom => absurd hroom (by omega)⟩
  | case3 found p stack hroom' =>
    exact ⟨routes, hfound, (List.pairwise_append.1 hapart).1, fun es hes => Or.inl hes,
      fun _ hended => absurd hended Bool.false_ne_true.symm⟩
  | case4 found p stack hroom' fuel hcarries ih =>
    cases hstack with
    | @cons _ way _ ways hway hstack =>
      have hpaths : p.finish :: found.paths = (way :: routes).map .along := by
        rw [hway.tracks.follows.finish, hfound, List.map_cons]
      have hapart' : (way :: routes ++ ways).Pairwise Apart :=
        (List.perm_middle.pairwise_iff fun h => h.symm).1 hapart
      obtain ⟨routes', hroutes, hapart', hsound, hcomplete⟩ := ih hstack hpaths hapart'
      refine ⟨routes', hroutes, hapart', fun es hes => ?_, fun hroom hended => ?_⟩
      · rcases hsound es hes with hmem | hfresh
        · rcases List.mem_cons.1 hmem with rfl | hmem
          · exact Or.inr ⟨p, hway, hcarries⟩
          · exact Or.inl hmem
        · exact Or.inr hfresh
      · obtain ⟨hkeep, hall⟩ := hcomplete hroom hended
        refine ⟨fun es hes => hkeep es (List.mem_cons_of_mem way hes),
          fun other hother q es hes hq hin => ?_⟩
        rcases List.mem_cons.1 hother with rfl | hother
        · -- a path that has arrived is not taken further
          rcases hes.eq_or_takes_of_suffix hway hin with rfl | ⟨e, r, htakes, -⟩
          · exact hkeep _ List.mem_cons_self
          · exact absurd (htakes.carries.symm.trans hcarries) Bool.false_ne_true
        · exact hall other hother q es hes hq hin
  | case5 found p stack hroom' fuel hcarries ih =>
    cases hstack with
    | @cons _ way _ ways hway hstack =>
      obtain ⟨next, hnodup, hbranches, hall⟩ := exists_branches (Bool.eq_false_iff.2 hcarries)
      have hstack' : (s.extend p ++ stack).Forall₂ (s.Traces sink slot) (next.map (· :: way) ++ ways) :=
        List.rel_append (List.forall₂_map_right_iff.2 (hbranches.imp fun _ _ h => hway.step h)) hstack
      obtain ⟨routes', hroutes, hapart', hsound, hcomplete⟩ := ih hstack' hfound
        (pairwise_apart_extend hapart hnodup)
      refine ⟨routes', hroutes, hapart', hsound, fun hroom hended => ?_⟩
      obtain ⟨hkeep, hreach⟩ := hcomplete hroom hended
      refine ⟨hkeep, fun other hother q es hes hq hin => ?_⟩
      rcases List.mem_cons.1 hother with rfl | hother
      · rcases hes.eq_or_takes_of_suffix hway hin with rfl | ⟨e, r, htakes, hlonger⟩
        · exact absurd (hes.unique hway ▸ hq) hcarries
        · exact hreach (e :: other) (List.mem_append_left _ (List.mem_map.2 ⟨e, hall e r htakes, rfl⟩))
            q es hes hq hlonger
      · exact hreach other (List.mem_append_right _ hother) q es hes hq hin

/-- **A search finds different routes that it admits**, and all of them unless a limit is met. -/
theorem exists_routes (g : FlowGraph) (limits : SearchLimits) (origin : Origin) (sink : String)
    (slot : Option Key) : ∃ routes : List (List FlowEdge),
      ((g.searchFor limits origin).run sink slot).paths = routes.map .along ∧ routes.Nodup ∧
      (∀ es ∈ routes, (g.searchFor limits origin).Admits sink slot es) ∧
      (((g.searchFor limits origin).run sink slot).paths.length < limits.maxPaths →
        ((g.searchFor limits origin).run sink slot).exhausted = false →
        ∀ es, (g.searchFor limits origin).Admits sink slot es → es ∈ routes) := by
  obtain ⟨first, hnodup, hstack, hfirst⟩ := exists_first_branches (g.searchFor limits origin) sink slot
  have hapart : ([] ++ first.map ([·]) : List (List FlowEdge)).Pairwise Apart :=
    List.pairwise_map.2 (hnodup.imp fun hne => apart_of_ne hne [])
  obtain ⟨routes, hroutes, hapart, hsound, hcomplete⟩ :=
    exists_routes_loop limits.maxStates.toNat ⟨[], 0, false⟩ hstack rfl hapart
  refine ⟨routes.reverse, ?_, ?_, fun es hes => ?_, fun hroom hended es hes => ?_⟩
  · rw [List.map_reverse, ← hroutes]
    rfl
  · refine (List.reverse_perm routes).nodup_iff.2 (hapart.imp ?_)
    rintro es _ h rfl
    exact h.left (List.suffix_refl es)
  · rcases hsound es (List.mem_reverse.1 hes) with hnone | ⟨p, hp, hcarries⟩
    · exact absurd hnone List.not_mem_nil
    · exact admits_of_traces hp hcarries
  · rw [PathSearch.run, List.length_reverse] at hroom
    obtain ⟨p, hp, hcarries⟩ := exists_traces_of_admits hes
    obtain ⟨r, e, hr, hsuffix⟩ := hp.exists_first
    exact List.mem_reverse.2 ((hcomplete hroom hended).2 [e]
      (List.mem_map.2 ⟨e, hfirst r e hr, rfl⟩) p es hp hcarries hsuffix)

end PathSearch

/-! ### Nodes that are on a path twice -/

theorem FlowPath.nodup_nodes_along_iff {es : List FlowEdge} :
    (along es).nodes.Nodup ↔ (nodesAlong es).Nodup :=
  List.nodup_map_iff fun _ _ h => Atom.text.inj h

theorem FlowPath.Pending.concat {es : List FlowEdge} {sites : List (Option String)} {e : FlowEdge}
    (h : Pending es sites) (hkind : e.kind = .plain) : Pending (es ++ [e]) sites := by
  induction h with
  | nil => exact .other (by simp [hkind]) (by simp [hkind]) .nil
  | ret hret _ ih => exact .ret hret ih
  | call hcall _ ih => exact .call hcall ih
  | leave hcall _ ih => exact .leave hcall ih
  | other hret hcall _ ih => exact .other hret hcall ih

/-- A route that has come to the sink can be lengthened by an edge with which the sink feeds itself. -/
theorem FlowGraph.Route.concat {g : FlowGraph} {origin : Origin} {sink : String} {slot : Option Key}
    {es : List FlowEdge} {again : FlowEdge} (h : g.Route origin sink slot es) (hagain : again ∈ g.edges)
    (hkind : again.kind = .plain) (hslot : again.slot = slot) (hsrc : again.src = sink)
    (hdst : again.dst = sink) (hcarries : g.carries origin sink = false) :
    g.Route origin sink slot (es ++ [again]) := by
  obtain ⟨last, hlast, -, -, hlastDst⟩ := h.reads
  obtain ⟨first, hfirst, hstarts⟩ := h.starts
  obtain ⟨sites, hpending⟩ := h.matched
  refine ⟨⟨?_, ?_, ?_, ⟨again, List.getLast?_concat, hkind, hslot, hdst⟩, sites, hpending.concat hkind⟩,
    first, ?_, hstarts⟩
  · exact List.forall_mem_append.2 ⟨h.recorded, List.forall_mem_singleton.2 hagain⟩
  · refine List.isChain_append.2 ⟨h.joined, .singleton again, fun e he next hnext => ?_⟩
    cases hnext
    cases hlast.symm.trans he
    rw [hlastDst, hsrc]
  · rw [List.dropLast_concat, ← List.dropLast_append_getLast? last hlast]
    exact List.forall_mem_append.2 ⟨h.between, List.forall_mem_singleton.2 (hlastDst ▸ hcarries)⟩
  · rw [List.head?_append, hfirst]
    rfl

namespace PathSearch.Admits

variable {s : PathSearch} {sink : String} {slot : Option Key} {es : List FlowEdge}

theorem nodup_dropLast (h : s.Admits sink slot es) : (along es).nodes.dropLast.Nodup := by
  rw [along, h.route.nodesAlong_eq, List.map_append, List.map_singleton, List.dropLast_concat]
  exact h.once.distinct.map fun _ _ hne => Atom.text.inj hne

theorem nodup_iff (h : s.Admits sink slot es) :
    (along es).nodes.Nodup ↔ .text sink ∉ (along es).nodes.dropLast := by
  have hdropLast := h.nodup_dropLast
  rw [along, h.route.nodesAlong_eq, List.map_append, List.map_singleton, List.dropLast_concat]
    at hdropLast ⊢
  rw [List.nodup_append_comm, List.singleton_append, List.nodup_cons, and_iff_left hdropLast]

/-- The sink is repeated only by an edge with which it feeds itself. -/
theorem exists_again (h : s.Admits sink slot es) (hsink : .text sink ∈ (along es).nodes.dropLast) :
    ∃ e ∈ s.graph.edges, e.kind = .plain ∧ e.slot = slot ∧ e.src = sink ∧ e.dst = sink := by
  rw [along, h.route.nodesAlong_eq, List.map_append, List.map_singleton, List.dropLast_concat,
    List.mem_map] at hsink
  obtain ⟨node, hnode, htext⟩ := hsink
  obtain rfl := Atom.text.inj htext
  obtain ⟨e, he, hsrc⟩ := List.mem_map.1 hnode
  obtain ⟨last, hlast, hkind, hslot, hdst⟩ := h.route.reads
  rw [← List.dropLast_append_getLast? last hlast, List.mem_append, List.mem_singleton] at he
  rcases he with he | rfl
  · exact absurd hsrc (h.once.sink e he)
  · exact ⟨e, h.route.recorded e (List.mem_of_getLast? hlast), hkind, hslot, hsrc, hdst⟩

end PathSearch.Admits

/-- **No node but the sink is on a path twice.**  What a search finds leaves no node twice, and repeats a
node only if it passes through the sink.  So nothing is repeated where no edge of the slot leads from the
sink to itself.  Where one does, and no limit is met, every route into the sink is found once more with
that edge at its end, and then the sink is on the path twice. -/
theorem FlowGraph.nodup_of_paths (g : FlowGraph) (limits : SearchLimits) (origin : Origin)
    (sink : String) (slot : Option Key) :
    (∀ path ∈ ((g.searchFor limits origin).run sink slot).paths,
      path.nodes.dropLast.Nodup ∧ (path.nodes.Nodup ↔ .text sink ∉ path.nodes.dropLast)) ∧
    ((∀ e ∈ g.edges, e.kind = .plain → e.slot = slot → e.src = sink → e.dst ≠ sink) →
      ∀ path ∈ ((g.searchFor limits origin).run sink slot).paths, path.nodes.Nodup) ∧
    (((g.searchFor limits origin).run sink slot).paths.length < limits.maxPaths →
      ((g.searchFor limits origin).run sink slot).exhausted = false →
      g.carries origin sink = false → ∀ again ∈ g.edges, again.kind = .plain → again.slot = slot →
      again.src = sink → again.dst = sink → ∀ es, g.Route origin sink slot es →
      (nodesAlong es).Nodup → (nodesAlong es).length < limits.maxDepth →
      .along (es ++ [again]) ∈ ((g.searchFor limits origin).run sink slot).paths ∧
        ¬ (along (es ++ [again])).nodes.Nodup) := by
  obtain ⟨routes, hpaths, -, hadmits, hcomplete⟩ :=
    PathSearch.exists_routes g limits origin sink slot
  have hfound : ∀ path ∈ ((g.searchFor limits origin).run sink slot).paths,
      ∃ es, (g.searchFor limits origin).Admits sink slot es ∧ path = .along es := fun path hpath => by
    rw [hpaths] at hpath
    obtain ⟨es, hes, rfl⟩ := List.mem_map.1 hpath
    exact ⟨es, hadmits es hes, rfl⟩
  refine ⟨fun path hpath => ?_, fun hnone path hpath => ?_, fun hroom hended hcarries again hagain hkind
    hslot hsrc hdst es hroute hdistinct hdepth => ?_⟩
  · obtain ⟨es, hes, rfl⟩ := hfound path hpath
    exact ⟨hes.nodup_dropLast, hes.nodup_iff⟩
  · obtain ⟨es, hes, rfl⟩ := hfound path hpath
    refine hes.nodup_iff.2 fun hsink => ?_
    obtain ⟨e, he, hkind, hslot, hsrc, hdst⟩ := hes.exists_again hsink
    exact hnone e he hkind hslot hsrc hdst
  · have hlonger := hroute.concat hagain hkind hslot hsrc hdst hcarries
    have hnodes : nodesAlong (es ++ [again]) = nodesAlong es ++ [sink] := by
      rw [hlonger.nodesAlong_eq, hroute.nodesAlong_eq, List.map_append, List.map_singleton, hsrc]
    have hadmitted : (g.searchFor limits origin).Admits sink slot (es ++ [again]) := by
      refine ⟨hlonger, ⟨?_, fun e he hsink => ?_⟩, ?_⟩
      · rw [List.map_append, List.map_singleton, hsrc, ← hroute.nodesAlong_eq]
        exact hdistinct
      · rw [List.dropLast_concat] at he
        rw [hroute.nodesAlong_eq] at hdistinct
        exact (List.disjoint_of_nodup_append hdistinct) (List.mem_map.2 ⟨e, he, hsink⟩)
          (List.mem_singleton_self sink)
      · rw [hnodes, List.length_append, List.length_singleton]
        exact_mod_cast hdepth
    refine ⟨hpaths ▸ List.mem_map_of_mem (hcomplete hroom hended _ hadmitted), fun hnodup => ?_⟩
    rw [FlowPath.nodup_nodes_along_iff, hnodes, hroute.nodesAlong_eq] at hnodup
    exact (List.disjoint_of_nodup_append hnodup) (List.mem_append_right _ (List.mem_singleton_self sink))
      (List.mem_singleton_self sink)

/-- What is read is used, and so is again and again what its use makes of it. -/
def renewed : FlowGraph where
  edges := .ofList [⟨"f::get", "f::use", .plain, some (.text "x"), none⟩,
    ⟨"f::use", "f::use", .plain, some (.text "x"), none⟩]
  origins := .ofList [("f::get", .singleton .networkParameter)]

/-- The first use is found without a repetition, and with one as if it were the second. -/
theorem nodup_of_paths_renewed :
    (∀ path ∈ usedTwice.paths, path.nodes.Nodup) ∧ ∃ first again : FlowEdge,
      .along [first] ∈ ((renewed.searchFor ⟨40, 100, 20000⟩ .networkParameter).run "f::use"
        (some (.text "x"))).paths ∧
      .along [first, again] ∈ ((renewed.searchFor ⟨40, 100, 20000⟩ .networkParameter).run "f::use"
        (some (.text "x"))).paths ∧
      (along [first]).nodes.Nodup ∧ ¬ (along [first, again]).nodes.Nodup := by
  obtain ⟨-, hnone, -⟩ := FlowGraph.nodup_of_paths twice ⟨40, 100, 20000⟩ .networkParameter
    "main::use" (some (.text "y"))
  obtain ⟨honce, -, hagain⟩ := FlowGraph.nodup_of_paths renewed ⟨40, 100, 20000⟩ .networkParameter
    "f::use" (some (.text "x"))
  let first : FlowEdge := ⟨"f::get", "f::use", .plain, some (.text "x"), none⟩
  let again : FlowEdge := ⟨"f::use", "f::use", .plain, some (.text "x"), none⟩
  have hroute : renewed.Route .networkParameter "f::use" (some (.text "x")) [first] := {
    recorded := by decide +kernel
    joined := .singleton first
    between := fun _ h => absurd h List.not_mem_nil
    reads := ⟨first, rfl, rfl, rfl, rfl⟩
    matched := ⟨[], .other (by decide) (by decide) .nil⟩
    starts := ⟨first, rfl, by decide +kernel⟩ }
  have hfirst : .along [first] ∈ ((renewed.searchFor ⟨40, 100, 20000⟩ .networkParameter).run
      "f::use" (some (.text "x"))).paths := by decide +kernel
  obtain ⟨hlonger, hrepeated⟩ := hagain (by decide +kernel) (by decide +kernel) (by decide +kernel)
    again (by decide +kernel) rfl rfl rfl rfl [first] hroute (by decide) (by decide)
  exact ⟨hnone (by decide +kernel), first, again, hfirst, hlonger,
    (honce _ hfirst).2.2 (by decide), hrepeated⟩

/-- What a command interpreter is given comes from outside. -/
def listeningRules : Registry :=
  interpreterRules.addSource (.text "read") "read" ⟨.networkParameter, none⟩

/-- Reads a command and executes it, and then executes what comes out of that, over and over. -/
def renewing : Frame where
  function := .bare "f" "get" []
    [("get", { Node.bare .call ["use"] with api := .text "read", target := .text "x" }),
      ("use", { Node.bare .call ["use", "end"] with
        api := .text "exec", args := [some "x"], target := .text "x" }),
      ("end", Node.bare .ret [])]
  rules := listeningRules
  effects _ := none
  globals := ∅
  known := .ofList ["f"]

/-- **A loop puts a node on a path twice.** -/
theorem not_nodup_renewing : renewing.function.isValid renewing.known = true ∧
    ∃ a, renewing.analyze (.whole 50) ∅ = .ok a ∧ ∃ path ∈
      (((⟨a.seen.edges, a.seen.origins⟩ : FlowGraph).searchFor ⟨40, 100, 20000⟩ .networkParameter).run
        "f::use" (some (.text "x"))).paths, ¬ path.nodes.Nodup := by
  refine ⟨by decide +kernel, ?_⟩
  obtain ⟨a, ha, hpath⟩ := Result.exists_ok_of_any (r := renewing.analyze (.whole 50) ∅)
    (p := fun a => (((⟨a.seen.edges, a.seen.origins⟩ : FlowGraph).searchFor ⟨40, 100, 20000⟩
      .networkParameter).run "f::use" (some (.text "x"))).paths.any (fun path => ¬ path.nodes.Nodup))
    (by decide +kernel)
  obtain ⟨path, hmem, hrepeated⟩ := List.any_eq_true.1 hpath
  exact ⟨a, ha, path, hmem, of_decide_eq_true hrepeated⟩

/-! ### Routes along the same nodes -/

/-- **A search returns a path for each of different routes**, each of which it admits.  So the nodes of its
paths are different exactly if no two of these routes lead along the same nodes; unless a limit is met,
these are all routes that it admits.  Nothing is returned twice where no two edges have the same ends. -/
theorem FlowGraph.exists_distinct_routes (g : FlowGraph) (limits : SearchLimits) (origin : Origin)
    (sink : String) (slot : Option Key) : ∃ routes : List (List FlowEdge),
      ((g.searchFor limits origin).run sink slot).paths = routes.map .along ∧ routes.Nodup ∧
      (∀ es ∈ routes, (g.searchFor limits origin).Admits sink slot es) ∧
      ((((g.searchFor limits origin).run sink slot).paths.map FlowPath.nodes).Nodup ↔
        ∀ es ∈ routes, ∀ es' ∈ routes, Parallel es es' → es = es') ∧
      (((g.searchFor limits origin).run sink slot).paths.length < limits.maxPaths →
        ((g.searchFor limits origin).run sink slot).exhausted = false →
        ∀ es, es ∈ routes ↔ (g.searchFor limits origin).Admits sink slot es) ∧
      ((∀ e ∈ g.edges, ∀ e' ∈ g.edges, e.src = e'.src → e.dst = e'.dst → e = e') →
        (((g.searchFor limits origin).run sink slot).paths.map FlowPath.nodes).Nodup) := by
  obtain ⟨routes, hpaths, hnodup, hadmits, hcomplete⟩ :=
    PathSearch.exists_routes g limits origin sink slot
  have hparallel : ∀ es ∈ routes, ∀ es' ∈ routes,
      (along es).nodes = (along es').nodes ↔ Parallel es es' := fun es hes es' hes' => by
    have happroach := (hadmits es hes).route.toApproach
    have happroach' := (hadmits es' hes').route.toApproach
    rw [parallel_iff happroach.ne_nil happroach'.ne_nil happroach.joined happroach'.joined]
    exact (List.map_injective_iff.2 fun _ _ h => Atom.text.inj h).eq_iff
  have hiff : (((g.searchFor limits origin).run sink slot).paths.map FlowPath.nodes).Nodup ↔
      ∀ es ∈ routes, ∀ es' ∈ routes, Parallel es es' → es = es' := by
    rw [hpaths, List.map_map]
    constructor
    · intro hdistinct es hes es' hes' hsame
      exact List.inj_on_of_nodup_map hdistinct hes hes' ((hparallel es hes es' hes').2 hsame)
    · intro hdiffer
      exact hnodup.map_on fun es hes es' hes' hnodes =>
        hdiffer es hes es' hes' ((hparallel es hes es' hes').1 hnodes)
  refine ⟨routes, hpaths, hnodup, hadmits, hiff, fun hroom hended es =>
    ⟨hadmits es, hcomplete hroom hended es⟩, fun hsimple => hiff.2 fun es hes es' hes' hsame => ?_⟩
  have hrecorded := (hadmits es hes).route.recorded
  have hrecorded' := (hadmits es' hes').route.recorded
  clear hes hes'
  -- along the same nodes the edges are the same one by one
  induction hsame with
  | nil => rfl
  | cons hends hrest ih =>
    obtain ⟨he, hrecorded⟩ := List.forall_mem_cons.1 hrecorded
    obtain ⟨he', hrecorded'⟩ := List.forall_mem_cons.1 hrecorded'
    rw [hsimple _ he _ he' hends.1 hends.2, ih hrecorded hrecorded']

/-- The two paths to what is renewed have different nodes. -/
theorem distinct_paths_renewed :
    ((((renewed.searchFor ⟨40, 100, 20000⟩ .networkParameter).run "f::use" (some (.text "x"))).paths.map
      FlowPath.nodes).Nodup) ∧
    ((renewed.searchFor ⟨40, 100, 20000⟩ .networkParameter).run "f::use" (some (.text "x"))).paths.length
      = 2 := by
  obtain ⟨routes, -, -, -, -, -, hsimple⟩ := FlowGraph.exists_distinct_routes renewed ⟨40, 100, 20000⟩
    .networkParameter "f::use" (some (.text "x"))
  exact ⟨hsimple (by decide +kernel), by decide +kernel⟩

/-- Mixes what a call returns with what it leaves in its argument, and executes that.  The called function
returns the very thing that it has read into its parameter. -/
def mixing : Scan where
  program := {
    functions := .ofList [
      ("f", .bare "f" "get" [] [
        ("get", { Node.bare .call ["mix"] with
          callee := .text "g", args := [some "b"], target := .text "a" }),
        ("mix", { Node.bare .assign ["use"] with target := .text "c", operands := ["a", "b"] }),
        ("use", { Node.bare .call [] with api := .text "exec", args := [some "c"] })]),
      ("g", { Function.bare "g" "read" [] [
        ("read", { Node.bare .call ["end"] with api := .text "read", target := .text "p" }),
        ("end", { Node.bare .ret [] with operands := ["p"] })] with
          params := [⟨"p", none, true, none⟩] })]
    globals := ∅
    malformed := ∅ }
  rules := listeningRules
  strict := true

/-- **One path is returned several times.**  Both what is returned and what is left in the argument lead
from the call to the mix, so that a search in what the scan has recorded, within the limits of the built-in
settings, returns four paths that are two. -/
theorem not_distinct_mixing : ∃ settings notices limits found,
    Settings.merge (.object []) = .ok (settings, notices) ∧
    SearchLimits.ofConfig settings.toDocument = .ok limits ∧
    mixing.propagate settings.toDocument .unlimited ∅ = .ok found ∧
    ∃ paths, (((Scan.flowGraph found.state.analyses).searchFor limits .networkParameter).run "f::use"
      (some (.text "c"))).paths = paths ∧ paths.length = 4 ∧
      (paths.map FlowPath.nodes).dedup.length = 2 ∧ ¬ (paths.map FlowPath.nodes).Nodup := by
  obtain ⟨⟨settings, notices⟩, hmerge, hpasses⟩ := Result.exists_ok_of_any
    (r := Settings.merge (.object []))
    (p := fun merged => (SearchLimits.ofConfig merged.1.toDocument).toOption.any (fun limits =>
      (mixing.propagate merged.1.toDocument .unlimited ∅).toOption.any (fun found =>
        let paths := (((Scan.flowGraph found.state.analyses).searchFor limits .networkParameter).run
          "f::use" (some (.text "c"))).paths
        paths.length = 4 ∧ (paths.map FlowPath.nodes).dedup.length = 2 ∧
          ¬ (paths.map FlowPath.nodes).Nodup))) (by decide +kernel)
  obtain ⟨limits, hlimits, hpasses⟩ := Result.exists_ok_of_any hpasses
  obtain ⟨found, hfound, hrepeated⟩ := Result.exists_ok_of_any hpasses
  exact ⟨settings, notices, limits, found, hmerge, hlimits, hfound, _, rfl, of_decide_eq_true hrepeated⟩

end TaintFlow
