import Mathlib.Data.List.Basic
import Mathlib.Logic.Relation
import TaintFlow.CallGraph.Components
import TaintFlow.Proofs.Collection

/-!
# Reachability in a graph

Paths along edges, and vertices that can be reached from each other.  The vertices of a graph are what
can be reached from those that have an entry (`mem_vertices_iff_reaches`).
-/

namespace TaintFlow.Graph

variable {g : Graph}

def Edge (g : Graph) (v w : String) : Prop := w ∈ g.successors v

abbrev Reaches (g : Graph) : String → String → Prop := Relation.ReflTransGen g.Edge

def Mutual (g : Graph) (v w : String) : Prop := g.Reaches v w ∧ g.Reaches w v

theorem Mutual.refl (v : String) : g.Mutual v v := ⟨.refl, .refl⟩

theorem Mutual.symm {v w : String} (h : g.Mutual v w) : g.Mutual w v := ⟨h.2, h.1⟩

theorem Mutual.trans {u v w : String} (h : g.Mutual u v) (h' : g.Mutual v w) : g.Mutual u w :=
  ⟨h.1.trans h'.1, h'.2.trans h.2⟩

/-- Graphs with the same edges from all that can be reached from a vertex reach the same from it. -/
theorem reaches_congr {h : Graph} {v w : String}
    (hedge : ∀ x, g.Reaches v x → ∀ y, h.Edge x y ↔ g.Edge x y) : h.Reaches v w ↔ g.Reaches v w := by
  constructor
  · intro hw
    induction hw with
    | refl => exact .refl
    | tail _ hxy ih => exact ih.tail ((hedge _ ih _).1 hxy)
  · intro hw
    induction hw with
    | refl => exact .refl
    | tail hx hxy ih => exact ih.tail ((hedge _ hx _).2 hxy)

/-! ### Vertices and edges -/

theorem edge_iff {v w : String} : g.Edge v w ↔ ∃ s, g.get? v = some s ∧ w ∈ s := by
  unfold Edge successors OrderedMap.getD
  cases g.get? v with
  | none => simp
  | some s => simp

theorem mem_vertices_iff {w : String} : w ∈ g.vertices ↔ w ∈ g.keys ∨ ∃ v, g.Edge v w := by
  rw [vertices, OrderedSet.mem_foldl_union, OrderedSet.mem_ofList]
  refine or_congr_right ?_
  simp only [OrderedMap.mem_values_iff, edge_iff]
  constructor
  · rintro ⟨s, ⟨v, hv⟩, hw⟩
    exact ⟨v, s, hv, hw⟩
  · rintro ⟨v, s, hv, hw⟩
    exact ⟨s, ⟨v, hv⟩, hw⟩

theorem mem_vertices_of_edge {v w : String} (h : g.Edge v w) : w ∈ g.vertices :=
  mem_vertices_iff.2 (Or.inr ⟨v, h⟩)

theorem mem_keys_of_edge {v w : String} (h : g.Edge v w) : v ∈ g.keys := by
  obtain ⟨s, hs, -⟩ := edge_iff.1 h
  exact OrderedMap.mem_keys_iff.2 ⟨s, hs⟩

theorem mem_vertices_iff_reaches {w : String} : w ∈ g.vertices ↔ ∃ u ∈ g.keys, g.Reaches u w := by
  rw [mem_vertices_iff]
  constructor
  · rintro (hw | ⟨v, hedge⟩)
    · exact ⟨w, hw, .refl⟩
    · exact ⟨v, mem_keys_of_edge hedge, .single hedge⟩
  · rintro ⟨u, hu, hreach⟩
    cases hreach with
    | refl => exact Or.inl hu
    | tail _ hedge => exact Or.inr ⟨_, hedge⟩

theorem mem_vertices_of_reaches {v w : String} (hv : v ∈ g.vertices) (h : g.Reaches v w) :
    w ∈ g.vertices := by
  obtain ⟨u, hu, hreach⟩ := mem_vertices_iff_reaches.1 hv
  exact mem_vertices_iff_reaches.2 ⟨u, hu, hreach.trans h⟩

def addEdge (g : Graph) (v w : String) : Graph := g.set v ((g.getD v ∅).insert w)

theorem edge_addEdge_iff {v w x y : String} :
    (g.addEdge v w).Edge x y ↔ g.Edge x y ∨ (x = v ∧ y = w) := by
  unfold Edge successors addEdge
  rw [OrderedMap.getD_set]
  by_cases hx : x = v
  · simp [hx, or_comm]
  · simp [hx]

theorem edge_foldl_addEdge_iff {edges : List (String × String)} {x y : String} :
    (edges.foldl (fun g e => g.addEdge e.1 e.2) g).Edge x y ↔ g.Edge x y ∨ (x, y) ∈ edges := by
  induction edges generalizing g with
  | nil => simp
  | cons e rest ih =>
    rw [List.foldl_cons, ih, edge_addEdge_iff, List.mem_cons, or_assoc, Prod.ext_iff]

end TaintFlow.Graph
