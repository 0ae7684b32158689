import Mathlib.Data.List.Nodup
import TaintFlow.Proofs.CallGraph.Search

/-!
# Strongly connected components

No look-up of the search fails, and what it lists are the classes of vertices that reach each other:
each once, and whatever an edge of a component leads to before it (`searches_components`,
`components_spec`).
-/

namespace TaintFlow.Graph

variable {g : Graph}

/-- **The search ends** with every vertex in a completed component. -/
theorem exists_completed (g : Graph) : ∃ cs, g.components? = some cs ∧ Search.Completed g cs ∧
    ∀ v, (∃ c ∈ cs, v ∈ c) ↔ v ∈ g.vertices := by
  obtain ⟨t, ht, hend, hvisits, -, hkeys⟩ := (Search.invariant_initial g).searchAll rfl
    (fun v (hv : v ∈ g.keys) => hv)
  have hstack := hend.stack_eq_nil hvisits
  have hdone : ∀ v, t.Done v ↔ ∃ n, t.index.get? v = some n := by
    intro v
    rw [hend.indexed, hstack]
    simp
  refine ⟨t.found, ?_, hend.completed, fun v => ⟨fun hv => ?_, fun hv => ?_⟩⟩
  · rw [components?, ht]
    rfl
  · exact mem_vertices_iff_reaches.2 (hend.rooted v ((hdone v).1 hv))
  · obtain ⟨u, hu, hreach⟩ := mem_vertices_iff_reaches.1 hv
    induction hreach with
    | refl => exact (hdone u).2 (hkeys u hu)
    | tail hreach hedge ih =>
      exact hend.done_of_edge (ih (mem_vertices_iff_reaches.2 ⟨u, hu, hreach⟩)) hedge

/-- **The components are the classes of vertices that reach each other.**  Every vertex is in one of
them, and no edge leads from one of them, nor is a vertex in it, to one that is listed later. -/
theorem components_spec (g : Graph) :
    (∀ C ∈ g.components, ∃ v ∈ g.vertices, ∀ x, x ∈ C ↔ g.Mutual v x) ∧
      (∀ v ∈ g.vertices, ∃ C ∈ g.components, v ∈ C) ∧
      g.components.Pairwise (fun D C => ∀ x ∈ D, x ∉ C ∧ ∀ y, g.Edge x y → y ∉ C) := by
  obtain ⟨cs, hcs, hcompleted, hvertices⟩ := g.exists_completed
  have hcomponents : g.components = cs.map .ofList := by rw [components, hcs]; rfl
  rw [hcomponents]
  refine ⟨fun C hC => ?_, fun v hv => ?_, ?_⟩
  · obtain ⟨c, hc, rfl⟩ := List.mem_map.1 hC
    obtain ⟨v, hv, hclass⟩ := hcompleted.classes c hc
    exact ⟨v, (hvertices v).1 ⟨c, hc, hv⟩, fun x => OrderedSet.mem_ofList.trans (hclass x)⟩
  · obtain ⟨c, hc, hvc⟩ := (hvertices v).2 hv
    exact ⟨.ofList c, List.mem_map_of_mem hc, OrderedSet.mem_ofList.2 hvc⟩
  · refine List.pairwise_map.2 (hcompleted.apart.imp fun {c d} hcd x hx => ?_)
    obtain ⟨hnot, hedge⟩ := hcd x (OrderedSet.mem_ofList.1 hx)
    exact ⟨fun hd => hnot (OrderedSet.mem_ofList.1 hd),
      fun y hxy hy => hedge y hxy (OrderedSet.mem_ofList.1 hy)⟩

/-- **The search for components is correct.**  It succeeds, and its answer is a list of sorted lists.
What can be reached from a key stands in exactly one of them, and nothing else does; two vertices stand
together exactly when each can be reached from the other; and an edge that leads out of a list leads to
one that comes before it. -/
theorem searches_components (g : Graph) : ∃ cs, g.components? = some cs ∧
    g.components = cs.map .ofList ∧
    (∀ c ∈ cs, c.Pairwise (fun a b => compare a b = .lt)) ∧
    (∀ v, (∃ u ∈ g.keys, g.Reaches u v) → ∃! i : Nat, ∃ c, cs[i]? = some c ∧ v ∈ c) ∧
    (∀ c ∈ cs, ∀ v ∈ c, ∃ u ∈ g.keys, g.Reaches u v) ∧
    (∀ v w, (∃ u ∈ g.keys, g.Reaches u v) → ((∃ c ∈ cs, v ∈ c ∧ w ∈ c) ↔ g.Mutual v w)) ∧
    (∀ (i j : Nat) (c d : List String), cs[i]? = some c → cs[j]? = some d → i ≠ j →
      ∀ v ∈ c, ∀ w ∈ d, g.Edge v w → j < i) := by
  obtain ⟨cs, hcs, hcompleted, hvertices⟩ := g.exists_completed
  have hapart : ∀ {i j : Nat} {c d}, cs[i]? = some c → cs[j]? = some d → i < j →
      ∀ v ∈ c, v ∉ d ∧ ∀ w, g.Edge v w → w ∉ d := by
    intro i j c d hi hj hlt
    obtain ⟨hi', rfl⟩ := List.getElem?_eq_some_iff.1 hi
    obtain ⟨hj', rfl⟩ := List.getElem?_eq_some_iff.1 hj
    exact List.pairwise_iff_getElem.1 hcompleted.apart i j hi' hj' hlt
  refine ⟨cs, hcs, by rw [components, hcs]; rfl, hcompleted.sorted, ?_, ?_, ?_, ?_⟩
  · intro v hv
    obtain ⟨c, hc, hvc⟩ := (hvertices v).2 (mem_vertices_iff_reaches.2 hv)
    obtain ⟨i, hi⟩ := List.mem_iff_getElem?.1 hc
    refine ⟨i, ⟨c, hi, hvc⟩, ?_⟩
    rintro j ⟨d, hj, hvd⟩
    rcases Nat.lt_trichotomy j i with hlt | rfl | hlt
    · exact absurd hvc (hapart hj hi hlt v hvd).1
    · rfl
    · exact absurd hvd (hapart hi hj hlt v hvc).1
  · exact fun c hc v hv => mem_vertices_iff_reaches.1 ((hvertices v).1 ⟨c, hc, hv⟩)
  · intro v w hv
    constructor
    · rintro ⟨c, hc, hvc, hwc⟩
      obtain ⟨u, -, hclass⟩ := hcompleted.classes c hc
      exact ((hclass v).1 hvc).symm.trans ((hclass w).1 hwc)
    · intro hmutual
      obtain ⟨c, hc, hvc⟩ := (hvertices v).2 (mem_vertices_iff_reaches.2 hv)
      obtain ⟨u, -, hclass⟩ := hcompleted.classes c hc
      exact ⟨c, hc, hvc, (hclass w).2 (((hclass v).1 hvc).trans hmutual)⟩
  · intro i j c d hi hj hne v hv w hw hedge
    rcases Nat.lt_or_gt_of_ne hne with hlt | hlt
    · exact absurd hw ((hapart hi hj hlt v hv).2 w hedge)
    · exact hlt

example : components? (.ofList [("a", .singleton "b"), ("b", .ofList ["a", "c"]),
    ("d", .ofList ["b", "d"])]) = some [["c"], ["a", "b"], ["d"]] := by
  decide +kernel

end TaintFlow.Graph
