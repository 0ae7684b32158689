import Mathlib.Logic.Relation
import TaintFlow.Proofs.Path.Distance
import TaintFlow.Proofs.Path.Route

/-!
# The search for paths

A search grows partial paths backwards from the sink until they arrive at an origin.  Whatever it finds
was grown from a start (`mem_paths_loop`), and growing a path keeps it on an approach to the sink
(`Tracks.takes`), so that every path is made by a route (`FlowGraph.routes_of_paths`).  Conversely, unless
a limit is met, everything is found that a start grows to (`mem_paths_loop_of_grown`); and the search can
go along every approach (`Traces`) that fits into the allowed depth together with a walk from the origin,
since no walk is shorter than the distance that the search is pruned by (`exists_traces`).
-/

namespace TaintFlow

/-- The search for paths from one origin, with the distances that searches in the graph share. -/
def FlowGraph.searchFor (g : FlowGraph) (limits : SearchLimits) (origin : Origin) : PathSearch :=
  ⟨g, limits, origin, g.distanceTable.getD origin ∅⟩

namespace PathSearch

variable {s : PathSearch} {sink : String} {slot : Option Key}

def Grows (s : PathSearch) (p q : PartialPath) : Prop :=
  s.graph.carries s.origin p.node = false ∧ q ∈ s.extend p

/-- The search takes a partial path one edge further back. -/
structure Takes (s : PathSearch) (p : PartialPath) (e : FlowEdge) (q : PartialPath) : Prop where
  carries : s.graph.carries s.origin p.node = false
  recorded : e ∈ s.graph.edges
  dst : e.dst = p.node
  back : e.src ∉ p.back
  reachable : s.reachable e.src (p.back.length + 1) = true
  along : p.along? e = some q

theorem mem_into_iff {g : FlowGraph} {key : String} {e : FlowEdge} :
    e ∈ g.into key ↔ e ∈ g.edges ∧ e.dst = key := by
  rw [FlowGraph.into, List.mem_filter, decide_eq_true_eq]
  rfl

theorem mem_start_iff {p : PartialPath} : p ∈ s.start sink slot ↔
    ∃ e ∈ s.graph.edges, e.dst = sink ∧ e.kind = .plain ∧ e.slot = slot ∧
      s.reachable e.src 2 = true ∧ p = ⟨e.src, [e.dst, e.src], [false, e.isUnknown], []⟩ := by
  simp only [start, List.mem_map, List.mem_filter, mem_into_iff, decide_eq_true_eq]
  constructor
  · rintro ⟨e, ⟨⟨he, rfl⟩, hkind, hslot, hreach⟩, rfl⟩
    exact ⟨e, he, rfl, hkind, hslot, hreach, rfl⟩
  · rintro ⟨e, he, rfl, hkind, hslot, hreach, rfl⟩
    exact ⟨e, ⟨⟨he, rfl⟩, hkind, hslot, hreach⟩, rfl⟩

theorem mem_extend_iff {p q : PartialPath} : q ∈ s.extend p ↔
    ∃ e ∈ s.graph.edges, e.dst = p.node ∧ e.src ∉ p.back ∧
      s.reachable e.src (p.back.length + 1) = true ∧ p.along? e = some q := by
  simp only [extend, List.mem_filterMap, mem_into_iff]
  constructor
  · rintro ⟨e, ⟨he, hdst⟩, hq⟩
    split at hq
    · cases hq
    · next hnot =>
      rw [not_or, Bool.not_eq_false] at hnot
      exact ⟨e, he, hdst, hnot.1, hnot.2, hq⟩
  · rintro ⟨e, he, hdst, hback, hreach, hq⟩
    refine ⟨e, ⟨he, hdst⟩, ?_⟩
    rw [if_neg (by simp [hback, hreach])]
    exact hq

theorem grows_iff {p q : PartialPath} : s.Grows p q ↔ ∃ e, s.Takes p e q := by
  rw [Grows, mem_extend_iff]
  constructor
  · rintro ⟨hcarries, e, he, hdst, hback, hreach, hq⟩
    exact ⟨e, hcarries, he, hdst, hback, hreach, hq⟩
  · rintro ⟨e, hcarries, he, hdst, hback, hreach, hq⟩
    exact ⟨hcarries, e, he, hdst, hback, hreach, hq⟩

/-! ### The loop -/

theorem length_paths_loop_le {fuel : Nat} {stack : List PartialPath} {found : Found}
    (h : found.paths.length ≤ s.limits.maxPaths.toNat) :
    (s.loop fuel stack found).paths.length ≤ s.limits.maxPaths.toNat := by
  fun_induction s.loop fuel stack found with
  | case1 => exact h
  | case2 => exact h
  | case3 => exact h
  | case4 found p stack hroom fuel _ ih =>
    refine ih ?_
    rw [List.length_cons]
    omega
  | case5 found p stack hroom fuel _ ih => exact ih h

/-- What is found was found before, or is a path that one on the stack was taken further to. -/
theorem mem_paths_loop {fuel : Nat} {stack : List PartialPath} {found : Found} {path : FlowPath}
    (h : path ∈ (s.loop fuel stack found).paths) : path ∈ found.paths ∨ ∃ p ∈ stack, ∃ q,
      Relation.ReflTransGen s.Grows p q ∧ s.graph.carries s.origin q.node = true ∧
        path = q.finish := by
  fun_induction s.loop fuel stack found with
  | case1 => exact Or.inl h
  | case2 => exact Or.inl h
  | case3 => exact Or.inl h
  | case4 found p stack _ fuel hcarries ih =>
    rcases ih h with h | ⟨r, hr, hgrown⟩
    · rcases List.mem_cons.1 h with rfl | h
      · exact Or.inr ⟨p, List.mem_cons_self, p, .refl, hcarries, rfl⟩
      · exact Or.inl h
    · exact Or.inr ⟨r, List.mem_cons_of_mem p hr, hgrown⟩
  | case5 found p stack _ fuel hcarries ih =>
    rcases ih h with h | ⟨r, hr, q, hgrown, hq⟩
    · exact Or.inl h
    · rcases List.mem_append.1 hr with hr | hr
      · have hstep : s.Grows p r := ⟨Bool.eq_false_iff.2 hcarries, hr⟩
        exact Or.inr ⟨p, List.mem_cons_self, q, .head hstep hgrown, hq⟩
      · exact Or.inr ⟨r, List.mem_cons_of_mem p hr, q, hgrown, hq⟩

/-- Unless a limit is met, nothing that was found is lost, and everything is found that a path on the
stack can be taken further to. -/
theorem mem_paths_loop_of_grown {fuel : Nat} {stack : List PartialPath} {found : Found}
    (hroom : (s.loop fuel stack found).paths.length < s.limits.maxPaths)
    (hended : (s.loop fuel stack found).exhausted = false) :
    (∀ path ∈ found.paths, path ∈ (s.loop fuel stack found).paths) ∧
    ∀ p ∈ stack, ∀ q, Relation.ReflTransGen s.Grows p q → s.graph.carries s.origin q.node = true →
      q.finish ∈ (s.loop fuel stack found).paths := by
  fun_induction s.loop fuel stack found with
  | case1 found fuel => exact ⟨fun path h => h, fun p hp => absurd hp List.not_mem_nil⟩
  | case2 found p stack hfull => exact absurd hroom (by omega)
  | case3 found p stack hroom' => cases hended
  | case4 found p stack hroom' fuel hcarries ih =>
    obtain ⟨hkeep, hall⟩ := ih hroom hended
    refine ⟨fun path h => hkeep path (List.mem_cons_of_mem _ h), fun r hr q hgrown hq => ?_⟩
    rcases List.mem_cons.1 hr with rfl | hr
    · -- a path that has arrived is not taken further
      rcases Relation.ReflTransGen.cases_head hgrown with rfl | ⟨_, ⟨hnot, -⟩, -⟩
      · exact hkeep _ List.mem_cons_self
      · exact absurd (hnot.symm.trans hcarries) Bool.false_ne_true
    · exact hall r hr q hgrown hq
  | case5 found p stack hroom' fuel hcarries ih =>
    obtain ⟨hkeep, hall⟩ := ih hroom hended
    refine ⟨hkeep, fun r hr q hgrown hq => ?_⟩
    rcases List.mem_cons.1 hr with rfl | hr
    · rcases Relation.ReflTransGen.cases_head hgrown with rfl | ⟨r', ⟨-, hr'⟩, hgrown⟩
      · exact absurd hq hcarries
      · exact hall r' (List.mem_append_left _ hr') q hgrown hq
    · exact hall r (List.mem_append_right _ hr) q hgrown hq

/-! ### Paths that are found -/

/-- A partial path of a search has gone along an approach and is not too long. -/
structure Tracks (s : PathSearch) (sink : String) (slot : Option Key) (p : PartialPath)
    (es : List FlowEdge) : Prop where
  follows : p.Follows es
  approach : s.graph.Approach s.origin sink slot es
  short : (es.length : Int) + 1 ≤ s.limits.maxDepth

theorem length_le_of_reachable {node : String} {length : Nat} (h : s.reachable node length = true) :
    (length : Int) ≤ s.limits.maxDepth := by
  unfold reachable at h
  split at h
  · have := of_decide_eq_true h
    omega
  · cases h

theorem tracks_start {e : FlowEdge} (he : e ∈ s.graph.edges) (hkind : e.kind = .plain)
    (hslot : e.slot = slot) (hdst : e.dst = sink) (hreach : s.reachable e.src 2 = true) :
    s.Tracks sink slot ⟨e.src, [e.dst, e.src], [false, e.isUnknown], []⟩ [e] where
  follows := PartialPath.follows_start hkind
  approach := {
    recorded := List.forall_mem_singleton.2 he
    joined := .singleton e
    between := fun _ h => absurd h List.not_mem_nil
    reads := ⟨e, rfl, hkind, hslot, hdst⟩
    matched := ⟨_, (PartialPath.follows_start hkind).pending⟩ }
  short := length_le_of_reachable hreach

/-- **Taking a path one edge further keeps it on an approach.** -/
theorem Tracks.takes {p q : PartialPath} {e : FlowEdge} {es : List FlowEdge}
    (h : s.Tracks sink slot p es) (htakes : s.Takes p e q) : s.Tracks sink slot q (e :: es) := by
  have hnext := h.follows.along? htakes.dst htakes.along
  refine ⟨hnext, ?_, ?_⟩
  · obtain ⟨first, hfirst, hsrc⟩ := h.follows.node
    cases es with
    | nil => cases hfirst
    | cons _ es =>
      cases hfirst
      exact h.approach.cons htakes.recorded (htakes.dst.trans hsrc.symm)
        (htakes.dst ▸ htakes.carries) hnext.pending
  · have := length_le_of_reachable htakes.reachable
    rw [h.follows.length_back] at this
    exact this

/-- The search can go along edges to a partial path. -/
inductive Traces (s : PathSearch) (sink : String) (slot : Option Key) :
    PartialPath → List FlowEdge → Prop
  | start {e : FlowEdge} : e ∈ s.graph.edges → e.kind = .plain → e.slot = slot → e.dst = sink →
      s.reachable e.src 2 = true →
      Traces s sink slot ⟨e.src, [e.dst, e.src], [false, e.isUnknown], []⟩ [e]
  | step {p q : PartialPath} {e : FlowEdge} {es : List FlowEdge} : Traces s sink slot p es →
      s.Takes p e q → Traces s sink slot q (e :: es)

namespace Traces

variable {p q : PartialPath} {e : FlowEdge} {es : List FlowEdge}

theorem tracks (h : s.Traces sink slot p es) : s.Tracks sink slot p es := by
  induction h with
  | start he hkind hslot hdst hreach => exact tracks_start he hkind hslot hdst hreach
  | step _ htakes ih => exact ih.takes htakes

theorem ne_nil (h : s.Traces sink slot p es) : es ≠ [] := h.tracks.approach.ne_nil

theorem leavesOnce (h : s.Traces sink slot p es) : FlowPath.LeavesOnce sink es := by
  induction h with
  | start => exact FlowPath.leavesOnce_singleton sink _
  | @step p q e es hprior htakes ih =>
    have hnext := (hprior.step htakes).tracks.approach
    cases es with
    | nil => exact absurd rfl hprior.ne_nil
    | cons next es =>
      refine hnext.leavesOnce_cons_iff.2 ⟨?_, ih⟩
      rw [← hprior.tracks.follows.back, List.mem_reverse]
      exact htakes.back

theorem unique (h : s.Traces sink slot p es) (h' : s.Traces sink slot q es) : p = q := by
  induction h generalizing q with
  | start =>
    cases h' with
    | start => rfl
    | step hprior => exact absurd rfl hprior.ne_nil
  | step hprior htakes ih =>
    cases h' with
    | start => exact absurd rfl hprior.ne_nil
    | step hprior' htakes' =>
      have hq := htakes'.along
      rw [← ih hprior', htakes.along] at hq
      exact Option.some.inj hq

theorem exists_first (h : s.Traces sink slot p es) :
    ∃ q e, s.Traces sink slot q [e] ∧ [e] <:+ es := by
  induction h with
  | start he hkind hslot hdst hreach =>
    exact ⟨_, _, .start he hkind hslot hdst hreach, List.suffix_refl _⟩
  | step _ _ ih =>
    obtain ⟨q, e, hfirst, hsuffix⟩ := ih
    exact ⟨q, e, hfirst, hsuffix.trans (List.suffix_cons _ _)⟩

/-- A way that goes further takes some edge next. -/
theorem eq_or_takes_of_suffix {es' : List FlowEdge} (h : s.Traces sink slot q es')
    (hp : s.Traces sink slot p es) (hsuffix : es <:+ es') :
    es' = es ∨ ∃ e r, s.Takes p e r ∧ (e :: es) <:+ es' := by
  induction h with
  | start =>
    rcases List.suffix_cons_iff.1 hsuffix with rfl | hnil
    · exact Or.inl rfl
    · exact absurd (List.suffix_nil.1 hnil) hp.ne_nil
  | @step p' q e es' hprior htakes ih =>
    rcases List.suffix_cons_iff.1 hsuffix with rfl | hsuffix
    · exact Or.inl rfl
    · rcases ih hsuffix with rfl | ⟨e', r, htakes', hlonger⟩
      · obtain rfl := hprior.unique hp
        exact Or.inr ⟨e, q, htakes, List.suffix_refl _⟩
      · exact Or.inr ⟨e', r, htakes', hlonger.trans (List.suffix_cons e es')⟩

theorem exists_start (h : s.Traces sink slot p es) :
    ∃ q ∈ s.start sink slot, Relation.ReflTransGen s.Grows q p := by
  induction h with
  | start he hkind hslot hdst hreach =>
    exact ⟨_, mem_start_iff.2 ⟨_, he, hdst, hkind, hslot, hreach, rfl⟩, .refl⟩
  | step _ htakes ih =>
    obtain ⟨q, hq, hgrown⟩ := ih
    exact ⟨q, hq, hgrown.tail (grows_iff.2 ⟨_, htakes⟩)⟩

end Traces

def Sound (s : PathSearch) (sink : String) (slot : Option Key) (p : PartialPath) : Prop :=
  ∃ es, s.Tracks sink slot p es

theorem sound_of_mem_start {p : PartialPath} (hp : p ∈ s.start sink slot) : s.Sound sink slot p := by
  obtain ⟨e, he, hdst, hkind, hslot, hreach, rfl⟩ := mem_start_iff.1 hp
  exact ⟨[e], tracks_start he hkind hslot hdst hreach⟩

theorem Sound.grows {p q : PartialPath} (h : s.Sound sink slot p) (hgrows : s.Grows p q) :
    s.Sound sink slot q := by
  obtain ⟨es, htracks⟩ := h
  obtain ⟨e, htakes⟩ := grows_iff.1 hgrows
  exact ⟨e :: es, htracks.takes htakes⟩

theorem Sound.grown {p q : PartialPath} (h : s.Sound sink slot p)
    (hgrown : Relation.ReflTransGen s.Grows p q) : s.Sound sink slot q := by
  induction hgrown with
  | refl => exact h
  | tail _ hgrows ih => exact ih.grows hgrows

end PathSearch

/-- A function that is called twice: what one call passes to it comes from outside, and what the other
call returns is passed on. -/
def twoCalls : List FlowEdge := [
  ⟨"main::in", "g::param", .call, some (.text "x"), some "main::one"⟩,
  ⟨"main::in", "g::param", .call, some (.text "x"), some "main::two"⟩,
  ⟨"g::param", "g::return", .plain, some (.text "p"), none⟩,
  ⟨"g::return", "main::two", .ret, none, some "main::two"⟩,
  ⟨"main::two", "main::use", .plain, some (.text "y"), none⟩]

def twice : FlowGraph := ⟨.ofList twoCalls, .ofList [("main::in", .singleton .networkParameter)]⟩

def usedTwice : PathSearch.Found :=
  (twice.searchFor ⟨40, 100, 20000⟩ .networkParameter).run "main::use" (some (.text "y"))

/-- **Paths that are found are real.**  A search finds no more paths than it is allowed to, and each of
them is made by recorded edges from a node that carries the origin into the slot of the sink: through no
node in between that carries the origin, with calls and returns that match, and with no more nodes than
it is allowed to have.  Its unknown hops are the places that unknown edges lead to. -/
theorem FlowGraph.routes_of_paths (g : FlowGraph) (limits : SearchLimits) (origin : Origin)
    (sink : String) (slot : Option Key) :
    ((g.searchFor limits origin).run sink slot).paths.length ≤ limits.maxPaths.toNat ∧
    ∀ path ∈ ((g.searchFor limits origin).run sink slot).paths, ∃ es,
      path = .along es ∧ g.Route origin sink slot es ∧ path.nodes.length ≤ limits.maxDepth ∧
      ∀ i, i ∈ path.unknownHops ↔ 0 < i ∧ ∃ e, es[i - 1]? = some e ∧ e.kind = .unknown := by
  constructor
  · rw [PathSearch.run, List.length_reverse]
    exact PathSearch.length_paths_loop_le (Nat.zero_le _)
  · intro path hpath
    rw [PathSearch.run, List.mem_reverse] at hpath
    obtain hnone | ⟨p, hp, q, hgrown, hcarries, rfl⟩ := PathSearch.mem_paths_loop hpath
    · exact absurd hnone List.not_mem_nil
    · obtain ⟨es, hfollows, happroach, hdepth⟩ := (PathSearch.sound_of_mem_start hp).grown hgrown
      obtain ⟨e, he, hsrc⟩ := hfollows.node
      rw [hfollows.finish]
      refine ⟨es, rfl, ⟨happroach, e, he, hsrc ▸ hcarries⟩, ?_, fun i => FlowPath.mem_unknownAlong_iff⟩
      rw [FlowPath.along, List.length_map, FlowPath.length_nodesAlong happroach.ne_nil]
      exact_mod_cast hdepth

/-- There is a path from outside, and it is made by a route. -/
theorem exists_route_twice : ∃ path ∈ usedTwice.paths, ∃ es, path = .along es ∧
    twice.Route .networkParameter "main::use" (some (.text "y")) es := by
  obtain ⟨path, hpath⟩ := List.exists_mem_of_ne_nil usedTwice.paths (by decide +kernel)
  obtain ⟨es, halong, hroute, -⟩ := (FlowGraph.routes_of_paths twice ⟨40, 100, 20000⟩ .networkParameter
    "main::use" (some (.text "y"))).2 path hpath
  exact ⟨path, hpath, es, halong, hroute⟩

/-! ### Paths that are not missed -/

namespace PathSearch

open FlowPath

variable {g : FlowGraph} {limits : SearchLimits} {origin : Origin}

theorem reachable_of_walk {n length : Nat} {node : String} (hwalk : g.Walk origin n node)
    (hdepth : (length : Int) + n ≤ limits.maxDepth) :
    (g.searchFor limits origin).reachable node length = true := by
  obtain ⟨d, hd, hget⟩ := FlowGraph.exists_distance_of_walk hwalk
  rw [← g.getD_distanceTable] at hget
  simp only [reachable, FlowGraph.searchFor, hget]
  exact decide_eq_true (by omega)

/-- A search goes along one more edge of an approach, if a walk from the origin leads to the edge and the
two are not too long together. -/
theorem exists_takes (limits : SearchLimits) {p : PartialPath} {e next : FlowEdge} {es : List FlowEdge}
    {n : Nat} (hfollows : p.Follows (next :: es))
    (happroach : g.Approach origin sink slot (e :: next :: es))
    (hwalk : g.Walk origin n e.src) (hnew : e.src ∉ nodesAlong (next :: es))
    (hdepth : (n : Int) + es.length + 3 ≤ limits.maxDepth) :
    ∃ q, (g.searchFor limits origin).Takes p e q := by
  have hjoin : e.dst = next.src := (List.isChain_cons_cons.1 happroach.joined).1
  obtain ⟨_, hfirst, hnode⟩ := hfollows.node
  cases hfirst
  obtain ⟨sites, hpending⟩ := happroach.matched
  obtain ⟨q, halong⟩ := hfollows.exists_along? hpending
  refine ⟨q, ?_, happroach.recorded e List.mem_cons_self, hjoin.trans hnode, ?_, ?_, halong⟩
  · rw [← hnode, ← hjoin]
    exact happroach.between e List.mem_cons_self
  · rwa [← List.mem_reverse, hfollows.back]
  · refine reachable_of_walk hwalk ?_
    rw [hfollows.length_back, List.length_cons]
    push_cast at hdepth ⊢
    omega

/-- **A search can go along every approach that a walk from the origin leads to**, if no node is left
twice and the two are not too long together. -/
theorem exists_traces (limits : SearchLimits) {n : Nat} {e : FlowEdge} {es : List FlowEdge}
    (happroach : g.Approach origin sink slot (e :: es)) (hwalk : g.Walk origin n e.src)
    (honce : LeavesOnce sink (e :: es)) (hdepth : (n : Int) + es.length + 2 ≤ limits.maxDepth) :
    ∃ p, (g.searchFor limits origin).Traces sink slot p (e :: es) := by
  have hedge : e ∈ g.edges := happroach.recorded e List.mem_cons_self
  induction es generalizing n e with
  | nil =>
    obtain ⟨_, he, hkind, hslot, hsink⟩ := happroach.reads
    cases he
    have hreach : (g.searchFor limits origin).reachable e.src 2 = true :=
      reachable_of_walk hwalk (by simp only [List.length_nil] at hdepth; omega)
    exact ⟨_, .start hedge hkind hslot hsink hreach⟩
  | cons next es ih =>
    have hjoin : e.dst = next.src := (List.isChain_cons_cons.1 happroach.joined).1
    obtain ⟨hnew, honce⟩ := happroach.leavesOnce_cons_iff.1 honce
    rw [List.length_cons] at hdepth
    obtain ⟨p, hp⟩ := ih happroach.tail (hjoin ▸ hwalk.step hedge) honce
      (by push_cast at hdepth ⊢; omega) (happroach.recorded next (by simp))
    obtain ⟨q, htakes⟩ := exists_takes limits hp.tracks.follows happroach hwalk hnew
      (by push_cast at hdepth ⊢; omega)
    exact ⟨q, hp.step htakes⟩

/-- So every such approach with different nodes is grown to from a start. -/
theorem exists_grown (limits : SearchLimits) {n : Nat} {e : FlowEdge} {es : List FlowEdge}
    (happroach : g.Approach origin sink slot (e :: es)) (hwalk : g.Walk origin n e.src)
    (hdistinct : (nodesAlong (e :: es)).Nodup) (hdepth : (n : Int) + es.length + 2 ≤ limits.maxDepth) :
    ∃ p ∈ (g.searchFor limits origin).start sink slot, ∃ q,
      Relation.ReflTransGen (g.searchFor limits origin).Grows p q ∧ q.Follows (e :: es) := by
  obtain ⟨q, hq⟩ := exists_traces limits happroach hwalk (happroach.leavesOnce hdistinct) hdepth
  obtain ⟨p, hp, hgrown⟩ := hq.exists_start
  exact ⟨p, hp, q, hgrown, hq.tracks.follows⟩

/-- And every route with different nodes, unless it is too long. -/
theorem exists_grown_of_route (limits : SearchLimits) {es : List FlowEdge}
    (hroute : g.Route origin sink slot es) (hdistinct : (nodesAlong es).Nodup)
    (hdepth : (nodesAlong es).length ≤ limits.maxDepth) :
    ∃ p ∈ (g.searchFor limits origin).start sink slot, ∃ q,
      Relation.ReflTransGen (g.searchFor limits origin).Grows p q ∧ g.carries origin q.node = true ∧
        q.finish = .along es := by
  obtain ⟨e, he, hcarries⟩ := hroute.starts
  cases es with
  | nil => cases he
  | cons first es =>
    cases he
    rw [FlowPath.length_nodesAlong (List.cons_ne_nil _ _), List.length_cons] at hdepth
    obtain ⟨p, hp, q, hgrown, hfollows⟩ := exists_grown limits hroute.toApproach
      (.enter hcarries) hdistinct (by push_cast at hdepth ⊢; omega)
    obtain ⟨_, hfirst, hnode⟩ := hfollows.node
    cases hfirst
    exact ⟨p, hp, q, hgrown, hnode ▸ hcarries, hfollows.finish⟩

/-- What a start is grown to is found, unless a limit is met. -/
theorem finish_mem_paths_run {s : PathSearch} {p q : PartialPath}
    (hroom : (s.run sink slot).paths.length < s.limits.maxPaths)
    (hended : (s.run sink slot).exhausted = false) (hp : p ∈ s.start sink slot)
    (hgrown : Relation.ReflTransGen s.Grows p q) (hcarries : s.graph.carries s.origin q.node = true) :
    q.finish ∈ (s.run sink slot).paths := by
  rw [run, List.length_reverse] at hroom
  rw [run, List.mem_reverse]
  exact (mem_paths_loop_of_grown hroom hended).2 p hp q hgrown hcarries

end PathSearch

/-- **No path is missed.**  A search that neither found as many paths as it is allowed to nor ran out of
states found the path of every route with different nodes, if it is not too long. -/
theorem FlowGraph.mem_paths_of_route (g : FlowGraph) (limits : SearchLimits) (origin : Origin)
    (sink : String) (slot : Option Key)
    (hroom : ((g.searchFor limits origin).run sink slot).paths.length < limits.maxPaths)
    (hended : ((g.searchFor limits origin).run sink slot).exhausted = false) (es : List FlowEdge)
    (hroute : g.Route origin sink slot es) (hdistinct : (FlowPath.nodesAlong es).Nodup)
    (hdepth : (FlowPath.nodesAlong es).length ≤ limits.maxDepth) :
    .along es ∈ ((g.searchFor limits origin).run sink slot).paths := by
  obtain ⟨p, hp, q, hgrown, hcarries, hfinish⟩ :=
    PathSearch.exists_grown_of_route limits hroute hdistinct hdepth
  rw [← hfinish]
  exact PathSearch.finish_mem_paths_run hroom hended hp hgrown hcarries

/-- The way through the call that returns is found. -/
theorem mem_paths_twice : usedTwice.paths.length < (100 : Int) ∧ usedTwice.exhausted = false ∧
    twice.Route .networkParameter "main::use" (some (.text "y")) twoCalls.tail ∧
    .along twoCalls.tail ∈ usedTwice.paths := by
  have hroute : twice.Route .networkParameter "main::use" (some (.text "y")) twoCalls.tail := {
    recorded := by decide +kernel
    joined := by decide
    between := by decide +kernel
    reads := ⟨_, rfl, rfl, rfl, rfl⟩
    matched := ⟨[], .call rfl (.other (by decide) (by decide) (.ret rfl
      (.other (by decide) (by decide) .nil)))⟩
    starts := ⟨_, rfl, by decide +kernel⟩ }
  have hroom : usedTwice.paths.length < (100 : Int) := by decide +kernel
  have hended : usedTwice.exhausted = false := by decide +kernel
  exact ⟨hroom, hended, hroute, FlowGraph.mem_paths_of_route twice ⟨40, 100, 20000⟩ .networkParameter
    "main::use" (some (.text "y")) hroom hended _ hroute (by decide) (by decide)⟩

end TaintFlow
