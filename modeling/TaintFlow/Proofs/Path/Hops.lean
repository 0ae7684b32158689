import TaintFlow.Proofs.Flow.Lineage
import TaintFlow.Proofs.Path.Distinct

/-!
# Unknown hops

A call that nobody can follow marks what it returns as unknown, and a path has an unknown hop where an
unknown edge leads.  The two are told apart by the edges into the call (`Frame.Marks.cases_of_mem_edgesAt`):
what such a call reads it reads through unknown edges, but a sink has plain edges for what it checks, and
none but these if it is not a function of the program.  So paths and labels agree on all calls that are no
sinks, and a sink that is passed through is never a hop (`Frame.unknownHops_of_paths`).
-/

namespace TaintFlow

/-- The key stands for a parameter or the receiver of a function, or for a global. -/
def IsSlotKey (key : String) : Prop :=
  (∃ callee index, key = functionKey callee (paramMarker index)) ∨
    (∃ callee, key = functionKey callee receiverMarker) ∨ ∃ name, key = globalKey name

theorem not_isSlotKey {key : String} (hcolons : key.toList.count ':' < 3)
    (hreceiver : ¬ "::receiver".toList <:+ key.toList) (hglobal : ¬ "<global>::".toList <+: key.toList) :
    ¬ IsSlotKey key := by
  rintro (⟨callee, index, rfl⟩ | ⟨callee, rfl⟩ | ⟨name, rfl⟩)
  · have hmarks : (keySeparator ++ "param:").toList.count ':' = 3 := by decide +kernel
    simp only [functionKey, paramMarker, String.toList_append, List.count_append] at hcolons hmarks
    omega
  · refine hreceiver ⟨callee.toList, ?_⟩
    rw [← String.toList_append, functionKey, String.append_assoc]
    rfl
  · refine hglobal ⟨name.toList, ?_⟩
    rw [← String.toList_append]
    rfl

theorem of_mem_useEdges {kind : EdgeKind} {key : String} {slots : List (Option Slot)} {s : State}
    {e : FlowEdge} (he : e ∈ useEdges kind key slots s) :
    e.dst = key ∧ e.kind = kind ∧ e.slot ∈ slots := by
  obtain ⟨slot, hslot, he⟩ := List.mem_flatMap.1 he
  obtain ⟨d, -, rfl⟩ := List.mem_map.1 he
  exact ⟨rfl, rfl, hslot⟩

theorem of_mem_callEdges {n : Node} {key callee : String} {s : State} {e : FlowEdge}
    (he : e ∈ n.callEdges key callee s) : IsSlotKey e.dst ∧ e.kind = .call := by
  unfold Node.callEdges at he
  rcases List.mem_append.1 he with he | he
  · obtain ⟨⟨index, arg⟩, -, he⟩ := List.mem_flatMap.1 he
    obtain ⟨d, -, rfl⟩ := List.mem_map.1 he
    exact ⟨Or.inl ⟨callee, index, rfl⟩, rfl⟩
  · split at he
    · obtain ⟨d, -, rfl⟩ := List.mem_map.1 he
      exact ⟨Or.inr (Or.inl ⟨callee, rfl⟩), rfl⟩
    · cases he

theorem of_mem_returnEdges {effect : Effect} {key : String} {e : FlowEdge}
    (he : e ∈ effect.returnEdges key) : e.dst = key := by
  obtain ⟨defs, -, he⟩ := List.mem_flatMap.1 he
  obtain ⟨d, -, rfl⟩ := List.mem_map.1 he
  rfl

namespace Frame

variable {frame : Frame} {inputs : KeyMap TaintSet} {id : String} {n : Node} {s : State} {e : FlowEdge}
  {visits : Amount} {a : Analysis}

/-- The call marks its result as unknown. -/
structure Marks (frame : Frame) (n : Node) : Prop where
  call : n.kind = .call
  role : frame.role n = .degraded ∨ frame.role n = .unresolved

theorem of_mem_globalEdges {exit : State} (he : e ∈ frame.globalEdges exit) :
    IsSlotKey e.dst ∧ e.kind = .global := by
  obtain ⟨name, -, he⟩ := List.mem_flatMap.1 he
  obtain ⟨d, -, rfl⟩ := List.mem_map.1 he
  exact ⟨Or.inr (Or.inr ⟨name, rfl⟩), rfl⟩

/-- The edges of a node lead to it, but for those into a called function. -/
theorem dst_of_mem_edgesAt (he : e ∈ frame.edgesAt id n s) :
    e.dst = frame.function.key id ∨ IsSlotKey e.dst ∧ e.kind = .call := by
  unfold edgesAt at he
  cases hkind : n.kind with
  | assign | ret =>
    rw [hkind] at he
    exact Or.inl (of_mem_useEdges he).1
  | branch | nop =>
    rw [hkind] at he
    cases he
  | call =>
    rw [hkind] at he
    rcases List.mem_append.1 he with he | he
    · unfold sinkEdges at he
      split at he
      · exact Or.inl (of_mem_useEdges he).1
      · cases he
    · unfold roleEdges at he
      split at he
      · cases he
      · exact Or.inl (of_mem_useEdges he).1
      · rcases List.mem_append.1 he with he | he
        · exact Or.inr (of_mem_callEdges he)
        · exact Or.inl (of_mem_returnEdges he)
      · exact Or.inl (of_mem_useEdges he).1
      · split at he
        · cases he
        · exact Or.inl (of_mem_useEdges he).1

/-- A recorded edge that leads to a node is one of its own, or leads to a slot with the same key. -/
theorem mem_edgesAt_of_dst (h : frame.analyze visits inputs = .ok a) (he : e ∈ a.seen.edges)
    (hnode : frame.function.node? id = some n) (hdst : e.dst = frame.function.key id) :
    (∃ s, e ∈ frame.edgesAt id n s) ∨
      IsSlotKey (frame.function.key id) ∧ (e.kind = .call ∨ e.kind = .global) := by
  obtain ⟨p, hp, rfl⟩ := analyze_eq_ok h
  rcases mem_edges_finish.1 he with he | he
  · obtain ⟨ids, other, m, -, hm, he⟩ := (mem_edges_iff hp).1 he
    rcases dst_of_mem_edgesAt he with hother | ⟨hslot, hkind⟩
    · obtain rfl := key_injective _ (hother.symm.trans hdst)
      obtain rfl := Option.some.inj (hm.symm.trans hnode)
      exact Or.inl ⟨_, he⟩
    · exact Or.inr ⟨hdst ▸ hslot, Or.inl hkind⟩
  · obtain ⟨hslot, hkind⟩ := of_mem_globalEdges he
    exact Or.inr ⟨hdst ▸ hslot, Or.inr hkind⟩

/-- **The edges into a call that marks its result as unknown** are the plain ones of a sink that checks
the argument, and unknown ones; the latter only if the call is no sink or is one into the program. -/
theorem Marks.cases_of_mem_edgesAt (h : frame.Marks n) (he : e ∈ frame.edgesAt id n s) :
    (e.kind = .plain ∧ ∃ rule, frame.rules.sink? n.api = some rule ∧ e.slot ∈ n.checkedArgs rule) ∨
      e.kind = .unknown ∧ (frame.role n = .unresolved → frame.rules.sink? n.api = none) := by
  unfold edgesAt at he
  rw [h.call] at he
  rcases List.mem_append.1 he with he | he
  · unfold sinkEdges at he
    cases hsink : frame.rules.sink? n.api with
    | none =>
      rw [hsink] at he
      cases he
    | some rule =>
      rw [hsink] at he
      obtain ⟨-, hkind, hslot⟩ := of_mem_useEdges he
      exact Or.inl ⟨hkind, rule, rfl, hslot⟩
  · unfold roleEdges at he
    rcases h.role with hrole | hrole
    · rw [hrole] at he ⊢
      exact Or.inr ⟨(of_mem_useEdges he).2.1, fun hne => by cases hne⟩
    · rw [hrole] at he
      cases hsink : frame.rules.sink? n.api with
      | none =>
        rw [hsink] at he
        exact Or.inr ⟨(of_mem_useEdges he).2.1, fun _ => rfl⟩
      | some rule =>
        rw [hsink] at he
        cases he

/-- **Unknown hops and unknown marks.**  On a path through recorded edges, a call that marks its result as
unknown is an unknown hop if it is no sink, unless its key is also that of a slot.  A sink that is no
function of the program is never one, although it marks its result all the same.  Whatever such call is no
hop is a sink that the path enters by an argument that it checks, or has a key that is also a slot's. -/
theorem unknownHops_of_paths (h : frame.analyze visits inputs = .ok a) (limits : SearchLimits)
    (origin : Origin) (sink : String) (slot : Option Key) {path : FlowPath}
    (hpath : path ∈ (((⟨a.seen.edges, a.seen.origins⟩ : FlowGraph).searchFor limits origin).run sink
      slot).paths) {i : Nat} (hi : 0 < i) (hat : path.nodes[i]? = some (.text (frame.function.key id)))
    (hnode : frame.function.node? id = some n) (hmarks : frame.Marks n) :
    (frame.rules.sink? n.api = none → ¬ IsSlotKey (frame.function.key id) → i ∈ path.unknownHops) ∧
    (frame.role n = .unresolved → (frame.rules.sink? n.api).isSome = true → i ∉ path.unknownHops) ∧
    (i ∉ path.unknownHops → IsSlotKey (frame.function.key id) ∨
      ∃ rule, frame.rules.sink? n.api = some rule ∧ ∃ e ∈ a.seen.edges, e.kind = .plain ∧
        e.slot ∈ n.checkedArgs rule ∧ e.dst = frame.function.key id ∧
        path.nodes[i - 1]? = some (.text e.src)) := by
  obtain ⟨routes, hpaths, -, hadmits, -⟩ := PathSearch.exists_routes _ limits origin sink slot
  rw [hpaths] at hpath
  obtain ⟨es, hes, rfl⟩ := List.mem_map.1 hpath
  have hroute := (hadmits es hes).route
  obtain ⟨j, rfl⟩ := Nat.exists_eq_add_one.2 hi
  rw [FlowPath.along, List.getElem?_map, FlowPath.getElem?_nodesAlong_succ, Option.map_map,
    Option.map_eq_some_iff] at hat
  obtain ⟨e, he, hdst⟩ := hat
  have hdst : e.dst = frame.function.key id := Atom.text.inj hdst
  have hrecorded : e ∈ a.seen.edges := hroute.recorded e (List.mem_of_getElem? he)
  have hsrc : (FlowPath.along es).nodes[j]? = some (.text e.src) := by
    rw [FlowPath.along, List.getElem?_map, FlowPath.getElem?_nodesAlong hroute.joined he]
    rfl
  have hhop : j + 1 ∈ (FlowPath.along es).unknownHops ↔ e.kind = .unknown := by
    rw [FlowPath.along, FlowPath.mem_unknownAlong_iff, Nat.add_sub_cancel, he]
    simp
  have hcases := mem_edgesAt_of_dst h hrecorded hnode hdst
  have hmissed : e.kind ≠ .unknown → IsSlotKey (frame.function.key id) ∨
      ∃ rule, frame.rules.sink? n.api = some rule ∧ e.kind = .plain ∧ e.slot ∈ n.checkedArgs rule := by
    intro hkind
    rcases hcases with ⟨s, he⟩ | ⟨hslot, -⟩
    · rcases hmarks.cases_of_mem_edgesAt he with ⟨hplain, rule, hrule, hchecked⟩ | ⟨hunknown, -⟩
      · exact Or.inr ⟨rule, hrule, hplain, hchecked⟩
      · exact absurd hunknown hkind
    · exact Or.inl hslot
  rw [hhop, Nat.add_sub_cancel]
  refine ⟨fun hnone hown => ?_, fun hrole hsink hunknown => ?_, fun hkind => ?_⟩
  · by_contra hkind
    obtain ⟨rule, hrule, -⟩ := (hmissed hkind).resolve_left hown
    cases hnone.symm.trans hrule
  · rcases hcases with ⟨s, he⟩ | ⟨-, hkind⟩
    · rcases hmarks.cases_of_mem_edgesAt he with ⟨hplain, -⟩ | ⟨-, hnone⟩
      · cases hplain.symm.trans hunknown
      · rw [hnone hrole] at hsink
        cases hsink
    · rw [hunknown] at hkind
      rcases hkind with hkind | hkind <;> cases hkind
  · refine (hmissed hkind).imp_right ?_
    rintro ⟨rule, hrule, hplain, hchecked⟩
    exact ⟨rule, hrule, e, hrecorded, hplain, hchecked, hdst, hsrc⟩

end Frame

def libraryStep : Node :=
  { Node.bare .call ["use"] with api := .text "lib", args := [some "x"], target := .text "y" }

def executeStep : Node :=
  { Node.bare .call ["use"] with api := .text "exec", args := [some "x"], target := .text "y" }

/-- The paths from outside into what is executed in the end. -/
def executedPaths (a : Analysis) : List FlowPath :=
  (((⟨a.seen.edges, a.seen.origins⟩ : FlowGraph).searchFor ⟨40, 100, 20000⟩ .networkParameter).run
    "f::use" (some (.text "y"))).paths

/-- The way through the library has a hop there. -/
theorem unknownHops_libraryStep : ∃ a, (executing libraryStep).analyze (.whole 50) ∅ = .ok a ∧
    ∃ path ∈ executedPaths a, path.nodes[1]? = some (.text "f::step") ∧ 1 ∈ path.unknownHops := by
  obtain ⟨a, ha, hpath⟩ := Result.exists_ok_of_any (r := (executing libraryStep).analyze (.whole 50) ∅)
    (p := fun a => (executedPaths a).any (fun path => path.nodes[1]? = some (.text "f::step")))
    (by decide +kernel)
  obtain ⟨path, hpath, hat⟩ := List.any_eq_true.1 hpath
  have hown : ¬ IsSlotKey ((executing libraryStep).function.key "step") :=
    not_isSlotKey (by decide +kernel) (by decide +kernel) (by decide +kernel)
  have hnode : (executing libraryStep).function.node? "step" = some libraryStep := rfl
  have hat : path.nodes[1]? = some (.text ((executing libraryStep).function.key "step")) :=
    of_decide_eq_true hat
  obtain ⟨hhop, -⟩ := Frame.unknownHops_of_paths ha ⟨40, 100, 20000⟩ .networkParameter "f::use"
    (some (.text "y")) hpath Nat.one_pos hat hnode ⟨rfl, Or.inr rfl⟩
  exact ⟨a, ha, path, hpath, hat, hhop rfl hown⟩

/-- **A sink that is passed through is no hop.**  It marks what it returns as unknown, and the path through
it does not tell. -/
theorem not_unknownHops_executeStep :
    (executing executeStep).function.isValid (executing executeStep).known = true ∧
    (executing executeStep).Marks executeStep ∧ ∃ a,
      (executing executeStep).analyze (.whole 50) ∅ = .ok a ∧ ∃ path ∈ executedPaths a,
        path.nodes = [.text "f::get", .text "f::step", .text "f::use"] ∧ path.unknownHops = [] := by
  refine ⟨by decide +kernel, ⟨rfl, Or.inr rfl⟩, ?_⟩
  obtain ⟨a, ha, hpath⟩ := Result.exists_ok_of_any (r := (executing executeStep).analyze (.whole 50) ∅)
    (p := fun a => (executedPaths a).any (fun path =>
      path.nodes = [.text "f::get", .text "f::step", .text "f::use"] ∧ path.unknownHops = []))
    (by decide +kernel)
  obtain ⟨path, hpath, hhops⟩ := List.any_eq_true.1 hpath
  exact ⟨a, ha, path, hpath, of_decide_eq_true hhops⟩

end TaintFlow
