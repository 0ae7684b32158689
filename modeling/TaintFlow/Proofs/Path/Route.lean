import Mathlib.Data.List.Chain
import TaintFlow.Path.Search
import TaintFlow.Proofs.Collection

/-!
# Routes along edges

A path stands for edges, each of which leads to where the next one comes from.  Which edges make a path
from an origin into a sink argument (`FlowGraph.Route`) is said here without regard to how paths are
searched for; calls and returns are matched by reading the edges from the sink backwards (`Pending`).
A partial path of a search follows such edges (`PartialPath.Follows`), and a step of the search puts one
edge before them (`PartialPath.Follows.exists_along?`, `PartialPath.Follows.along?`).
-/

namespace TaintFlow

namespace FlowPath

/-- The nodes that joined edges lead along. -/
def nodesAlong : List FlowEdge → List String
  | [] => []
  | e :: es => e.src :: (e :: es).map FlowEdge.dst

/-- The places of the nodes that unknown edges lead to. -/
def unknownAlong (es : List FlowEdge) : List Nat :=
  (((List.range es.length).zip es).filter (fun (_, e) => e.isUnknown)).map (fun (i, _) => i + 1)

def along (es : List FlowEdge) : FlowPath := ⟨(nodesAlong es).map .text, unknownAlong es, false⟩

theorem mem_unknownAlong_iff {es : List FlowEdge} {i : Nat} :
    i ∈ unknownAlong es ↔ 0 < i ∧ ∃ e, es[i - 1]? = some e ∧ e.kind = .unknown := by
  simp only [unknownAlong, List.mem_map, List.mem_filter, Prod.exists, mem_zip_range_iff,
    FlowEdge.isUnknown, decide_eq_true_eq]
  constructor
  · rintro ⟨j, e, ⟨he, hkind⟩, rfl⟩
    exact ⟨Nat.succ_pos j, e, he, hkind⟩
  · rintro ⟨hpos, e, he, hkind⟩
    exact ⟨i - 1, e, ⟨he, hkind⟩, Nat.sub_add_cancel hpos⟩

theorem length_nodesAlong {es : List FlowEdge} (h : es ≠ []) :
    (nodesAlong es).length = es.length + 1 := by
  cases es with
  | nil => exact absurd rfl h
  | cons e es => simp [nodesAlong]

theorem nodesAlong_cons_cons {e next : FlowEdge} (es : List FlowEdge) (h : e.dst = next.src) :
    nodesAlong (e :: next :: es) = e.src :: nodesAlong (next :: es) := by
  simp [nodesAlong, h]

theorem nodesAlong_eq {es : List FlowEdge} {last : FlowEdge}
    (hjoined : es.IsChain (fun e next => e.dst = next.src)) (hlast : es.getLast? = some last) :
    nodesAlong es = es.map FlowEdge.src ++ [last.dst] := by
  induction es with
  | nil => cases hlast
  | cons e es ih =>
    cases es with
    | nil =>
      cases hlast
      rfl
    | cons next es =>
      rw [List.getLast?_cons_cons] at hlast
      obtain ⟨hjoin, hjoined⟩ := List.isChain_cons_cons.1 hjoined
      rw [nodesAlong_cons_cons es hjoin, ih hjoined hlast]
      rfl

theorem getElem?_nodesAlong_succ (es : List FlowEdge) (i : Nat) :
    (nodesAlong es)[i + 1]? = es[i]?.map FlowEdge.dst := by
  cases es with
  | nil => rfl
  | cons e es => rw [nodesAlong, List.getElem?_cons_succ, List.getElem?_map]

theorem getElem?_nodesAlong {es : List FlowEdge} {e : FlowEdge} {i : Nat}
    (hjoined : es.IsChain (fun e next => e.dst = next.src)) (he : es[i]? = some e) :
    (nodesAlong es)[i]? = some e.src := by
  obtain ⟨hi, -⟩ := List.getElem?_eq_some_iff.1 he
  have hlast := List.getLast?_eq_some_getLast (List.ne_nil_of_length_pos (Nat.zero_lt_of_lt hi))
  rw [nodesAlong_eq hjoined hlast, List.getElem?_append_left (by rwa [List.length_map]),
    List.getElem?_map, he]
  rfl

/-- Edges that leave no node twice, and the sink only by the last edge. -/
structure LeavesOnce (sink : String) (es : List FlowEdge) : Prop where
  distinct : (es.map FlowEdge.src).Nodup
  sink : ∀ e ∈ es.dropLast, e.src ≠ sink

theorem leavesOnce_singleton (sink : String) (e : FlowEdge) : LeavesOnce sink [e] :=
  ⟨List.pairwise_singleton _ _, fun _ h => absurd h List.not_mem_nil⟩

/-- The sites of the returns that no call was met for, the last one met first, when edges are read from
the last one back.  A call is at the site that it is pending for, or nothing is pending. -/
inductive Pending : List FlowEdge → List (Option String) → Prop
  | nil : Pending [] []
  | ret {e : FlowEdge} {es : List FlowEdge} {sites : List (Option String)} :
      e.kind = .ret → Pending es sites → Pending (e :: es) (e.site :: sites)
  | call {e : FlowEdge} {es : List FlowEdge} {sites : List (Option String)} :
      e.kind = .call → Pending es (e.site :: sites) → Pending (e :: es) sites
  | leave {e : FlowEdge} {es : List FlowEdge} : e.kind = .call → Pending es [] → Pending (e :: es) []
  | other {e : FlowEdge} {es : List FlowEdge} {sites : List (Option String)} :
      e.kind ≠ .ret → e.kind ≠ .call → Pending es sites → Pending (e :: es) sites

theorem Pending.tail {e : FlowEdge} {es : List FlowEdge} {sites : List (Option String)}
    (h : Pending (e :: es) sites) : ∃ sites', Pending es sites' := by
  cases h with
  | ret _ h | call _ h | leave _ h | other _ _ h => exact ⟨_, h⟩

theorem Pending.unique {es : List FlowEdge} {sites sites' : List (Option String)}
    (h : Pending es sites) (h' : Pending es sites') : sites = sites' := by
  induction h generalizing sites' with
  | nil => cases h'; rfl
  | ret hkind _ ih =>
    cases h' with
    | ret _ h' => rw [ih h']
    | call hcall _ => simp [hkind] at hcall
    | leave hcall _ => simp [hkind] at hcall
    | other hret _ _ => exact absurd hkind hret
  | call hkind _ ih =>
    cases h' with
    | ret hret _ => simp [hkind] at hret
    | call _ h' => exact (List.cons.inj (ih h')).2
    | leave _ h' => exact absurd (ih h') (List.cons_ne_nil _ _)
    | other _ hcall _ => exact absurd hkind hcall
  | leave hkind _ ih =>
    cases h' with
    | ret hret _ => simp [hkind] at hret
    | call _ h' => exact absurd (ih h').symm (List.cons_ne_nil _ _)
    | leave _ _ => rfl
    | other _ hcall _ => exact absurd hkind hcall
  | other hret hcall _ ih =>
    cases h' with
    | ret hkind _ => exact absurd hkind hret
    | call hkind _ => exact absurd hkind hcall
    | leave hkind _ => exact absurd hkind hcall
    | other _ _ h' => exact ih h'

end FlowPath

namespace FlowGraph

variable {g : FlowGraph} {origin : Origin} {sink : String} {slot : Option Key}

/-- Recorded edges, each leading to where the next one comes from, the last of them a plain one that
reads a slot of the sink, through nodes that do not carry an origin. -/
structure Approach (g : FlowGraph) (origin : Origin) (sink : String) (slot : Option Key)
    (es : List FlowEdge) : Prop where
  recorded : ∀ e ∈ es, e ∈ g.edges
  joined : es.IsChain (fun e next => e.dst = next.src)
  between : ∀ e ∈ es.dropLast, g.carries origin e.dst = false
  reads : ∃ e, es.getLast? = some e ∧ e.kind = .plain ∧ e.slot = slot ∧ e.dst = sink
  matched : ∃ sites, FlowPath.Pending es sites

/-- An approach that starts at a node that carries the origin. -/
structure Route (g : FlowGraph) (origin : Origin) (sink : String) (slot : Option Key)
    (es : List FlowEdge) : Prop extends Approach g origin sink slot es where
  starts : ∃ e, es.head? = some e ∧ g.carries origin e.src = true

theorem Approach.ne_nil {es : List FlowEdge} (h : g.Approach origin sink slot es) : es ≠ [] := by
  rintro rfl
  obtain ⟨e, he, -⟩ := h.reads
  cases he

theorem Approach.cons {e next : FlowEdge} {es : List FlowEdge} {sites : List (Option String)}
    (h : g.Approach origin sink slot (next :: es)) (he : e ∈ g.edges) (hjoin : e.dst = next.src)
    (hcarries : g.carries origin e.dst = false) (hpending : FlowPath.Pending (e :: next :: es) sites) :
    g.Approach origin sink slot (e :: next :: es) where
  recorded := List.forall_mem_cons.2 ⟨he, h.recorded⟩
  joined := List.isChain_cons_cons.2 ⟨hjoin, h.joined⟩
  between := List.forall_mem_cons.2 ⟨hcarries, h.between⟩
  reads := by
    rw [List.getLast?_cons_cons]
    exact h.reads
  matched := ⟨sites, hpending⟩

theorem Approach.tail {e next : FlowEdge} {es : List FlowEdge}
    (h : g.Approach origin sink slot (e :: next :: es)) : g.Approach origin sink slot (next :: es) where
  recorded := (List.forall_mem_cons.1 h.recorded).2
  joined := (List.isChain_cons_cons.1 h.joined).2
  between := (List.forall_mem_cons.1 h.between).2
  reads := by
    have hreads := h.reads
    rwa [List.getLast?_cons_cons] at hreads
  matched := h.matched.elim fun _ hpending => hpending.tail

theorem Approach.nodesAlong_eq {es : List FlowEdge} (h : g.Approach origin sink slot es) :
    FlowPath.nodesAlong es = es.map FlowEdge.src ++ [sink] := by
  obtain ⟨last, hlast, -, -, hdst⟩ := h.reads
  rw [FlowPath.nodesAlong_eq h.joined hlast, hdst]

theorem Approach.leavesOnce_cons_iff {e next : FlowEdge} {es : List FlowEdge}
    (h : g.Approach origin sink slot (e :: next :: es)) :
    FlowPath.LeavesOnce sink (e :: next :: es) ↔
      e.src ∉ FlowPath.nodesAlong (next :: es) ∧ FlowPath.LeavesOnce sink (next :: es) := by
  rw [h.tail.nodesAlong_eq, List.mem_append, List.mem_singleton, not_or]
  constructor
  · rintro ⟨hdistinct, hsink⟩
    rw [List.map_cons, List.nodup_cons] at hdistinct
    obtain ⟨hfirst, hrest⟩ := List.forall_mem_cons.1 hsink
    exact ⟨⟨hdistinct.1, hfirst⟩, hdistinct.2, hrest⟩
  · rintro ⟨⟨hnew, hfirst⟩, hdistinct, hrest⟩
    exact ⟨List.nodup_cons.2 ⟨hnew, hdistinct⟩, List.forall_mem_cons.2 ⟨hfirst, hrest⟩⟩

theorem Approach.leavesOnce {es : List FlowEdge} (h : g.Approach origin sink slot es)
    (hdistinct : (FlowPath.nodesAlong es).Nodup) : FlowPath.LeavesOnce sink es := by
  rw [h.nodesAlong_eq, List.nodup_append] at hdistinct
  obtain ⟨hleft, -, hnot⟩ := hdistinct
  exact ⟨hleft, fun e he => hnot e.src (List.mem_map.2 ⟨e, (List.dropLast_sublist es).mem he, rfl⟩) sink
    (List.mem_singleton_self sink)⟩

end FlowGraph

namespace PartialPath

open FlowPath

/-- A partial path has gone along edges, the last of which leads into the sink. -/
structure Follows (p : PartialPath) (es : List FlowEdge) : Prop where
  node : ∃ e, es.head? = some e ∧ e.src = p.node
  back : p.back.reverse = nodesAlong es
  flags : p.flags = false :: (es.map FlowEdge.isUnknown).reverse
  pending : Pending es p.calls.reverse

variable {p : PartialPath} {es : List FlowEdge}

theorem follows_start {e : FlowEdge} (hkind : e.kind = .plain) :
    Follows ⟨e.src, [e.dst, e.src], [false, e.isUnknown], []⟩ [e] where
  node := ⟨e, rfl, rfl⟩
  back := rfl
  flags := rfl
  pending := .other (by simp [hkind]) (by simp [hkind]) .nil

theorem Follows.finish (h : p.Follows es) : p.finish = .along es := by
  have hflags : p.flags.reverse.dropLast = es.map FlowEdge.isUnknown := by
    rw [h.flags, List.reverse_cons, List.reverse_reverse, List.dropLast_concat]
  rw [PartialPath.finish, h.back, hflags, along, unknownAlong, List.length_map, List.zip_map_right,
    List.filter_map, List.map_map]
  rfl

theorem Follows.length_back (h : p.Follows es) : p.back.length = es.length + 1 := by
  rw [← List.length_reverse, h.back, length_nodesAlong]
  rintro rfl
  obtain ⟨e, he, -⟩ := h.node
  cases he

/-- An edge that the search goes along is matched. -/
theorem Follows.pending_of_callsAfter? (h : p.Follows es) {e : FlowEdge}
    {calls : List (Option String)} (hcalls : p.callsAfter? e = some calls) :
    Pending (e :: es) calls.reverse := by
  have hpending := h.pending
  unfold callsAfter? at hcalls
  split at hcalls
  · next hkind =>
    cases hcalls
    rw [List.reverse_append]
    exact .ret hkind hpending
  · next hkind =>
    split at hcalls
    · next hnone =>
      cases hcalls
      rw [List.getLast?_eq_none_iff.1 hnone] at hpending ⊢
      exact .leave hkind hpending
    · next site hsome =>
      split at hcalls
      · next hsite =>
        cases hcalls
        obtain ⟨front, hfront⟩ := List.getLast?_eq_some_iff.1 hsome
        rw [hfront, List.reverse_append, hsite] at hpending
        rw [hfront, List.dropLast_concat]
        exact .call hkind hpending
      · cases hcalls
  · next hret hcall =>
    cases hcalls
    exact .other hret hcall hpending

/-- The search goes along every edge that is matched. -/
theorem Follows.exists_callsAfter? (h : p.Follows es) {e : FlowEdge} {sites : List (Option String)}
    (hnext : Pending (e :: es) sites) : ∃ calls, p.callsAfter? e = some calls := by
  unfold callsAfter?
  cases hnext with
  | ret hkind _ =>
    rw [hkind]
    exact ⟨_, rfl⟩
  | call hkind hrest =>
    have hcalls : p.calls = sites.reverse ++ [e.site] := by
      rw [← List.reverse_cons, ← h.pending.unique hrest, List.reverse_reverse]
    rw [hkind, hcalls]
    exact ⟨sites.reverse, by simp⟩
  | leave hkind hrest =>
    rw [hkind, List.reverse_eq_nil_iff.1 (h.pending.unique hrest)]
    exact ⟨[], rfl⟩
  | other hret hcall _ =>
    split
    · next hkind => exact absurd hkind hret
    · next hkind => exact absurd hkind hcall
    · exact ⟨_, rfl⟩

/-- **One step of the search**: the path goes along one more edge. -/
theorem Follows.along? {q : PartialPath} {e : FlowEdge} (h : p.Follows es) (hdst : e.dst = p.node)
    (hq : p.along? e = some q) : q.Follows (e :: es) := by
  obtain ⟨calls, hcalls, rfl⟩ := Option.map_eq_some_iff.1 hq
  obtain ⟨next, hnext, hsrc⟩ := h.node
  cases es with
  | nil => cases hnext
  | cons first es =>
    cases hnext
    refine ⟨⟨e, rfl, rfl⟩, ?_, ?_, h.pending_of_callsAfter? hcalls⟩
    · simp [h.back, nodesAlong, hsrc, hdst]
    · simp [h.flags]

theorem Follows.exists_along? {e : FlowEdge} {sites : List (Option String)} (h : p.Follows es)
    (hnext : Pending (e :: es) sites) : ∃ q, p.along? e = some q := by
  obtain ⟨calls, hcalls⟩ := h.exists_callsAfter? hnext
  exact ⟨_, by rw [PartialPath.along?, hcalls]; rfl⟩

end PartialPath

end TaintFlow
