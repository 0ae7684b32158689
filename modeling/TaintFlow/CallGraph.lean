import TaintFlow.CallGraph.Components
import TaintFlow.Fault
import TaintFlow.Program.Basic

/-!
# The call graph

Which functions of a program call which. Components of mutually recursive functions are grouped into
layers by their height, so that a layer calls only into lower layers and into itself.
-/

namespace TaintFlow

structure CallGraph where
  callees : Graph
  callers : Graph
  /-- The components, called before calling. -/
  components : List Names

namespace CallGraph

/-- The resolved calls of a program, as pairs of caller and called function. -/
def calls (p : Program) : List (String × String) :=
  let known := p.functionIds
  p.functions.values.flatMap (fun f =>
    f.callNodes.filterMap (fun (_, node) =>
      match node.callee with
      | .text callee => if callee ∈ known ∧ node.dynamic = false then some (f.id, callee) else none
      | _ => none))

/-- The graph on the given vertices with the given edges. -/
def ofEdges (vertices : Names) (edges : List (String × String)) : Graph :=
  edges.foldl (fun g (v, w) => g.set v ((g.successors v).insert w))
    (.ofList (vertices.toList.map (fun v => (v, ∅))))

def ofProgram (p : Program) : CallGraph :=
  let edges := calls p
  let callees := ofEdges p.functionIds edges
  ⟨callees, ofEdges p.functionIds (edges.map (fun (v, w) => (w, v))), callees.components⟩

/-- Whether every call names what can be the id of a function: a list or an object cannot. -/
def isDefinedFor (p : Program) : Bool :=
  p.functions.values.all (fun f => f.callNodes.all (fun (_, node) => node.callee.key?.isSome))

/-- The call graph of a program, if it is defined. -/
def ofProgram? (p : Program) : Result CallGraph :=
  if isDefinedFor p then .ok (ofProgram p) else .error .wrongKind

/-- Whether the functions of a component call each other, or a single one itself. -/
def isRecursive (g : CallGraph) (component : Names) : Bool :=
  match component.toList with
  | [f] => f ∈ g.callees.successors f
  | _ => true

/-- One more than the greatest height of the components that a component calls into. -/
def heightOver (g : CallGraph) (heights : List (Names × Nat)) (component : Names) : Nat :=
  let called := component.toList.flatMap (fun f => (g.callees.successors f).toList)
  let below := heights.filter (fun (c, _) => c ≠ component ∧ called.any (fun w => w ∈ c))
  below.foldl (fun h (_, height) => max h (height + 1)) 0

/-- The components with their heights. -/
def heights (g : CallGraph) : List (Names × Nat) :=
  g.components.foldl (fun heights c => heights ++ [(c, g.heightOver heights c)]) []

/-- The components by height, lowest first. -/
def layers (g : CallGraph) : List (List Names) :=
  let heights := g.heights
  let count := heights.foldl (fun n (_, height) => max n (height + 1)) 0
  (List.range count).map (fun i => (heights.filter (fun (_, height) => height = i)).map Prod.fst)

/-- The component of each function. -/
def componentOf (g : CallGraph) : NameMap Names :=
  g.components.foldl (fun found c => c.toList.foldl (fun found f => found.set f c) found) ∅

/-- The components that a component calls into, if the look-ups for its functions and for what they
call succeed. -/
def below? (g : CallGraph) (component : Names) : Option (List Names) := do
  let called ← component.toList.mapM g.callees.get?
  let below ← (called.flatMap OrderedSet.toList).mapM g.componentOf.get?
  return below.filter (fun c => c ≠ component)

/-- The components with their heights, if the height of every component that is called into can be
looked up when it is needed. -/
def heights? (g : CallGraph) : Option (List (Names × Nat)) :=
  g.components.foldlM (fun heights c => do
    let below ← (← g.below? c).mapM (fun b => heights.lookup b)
    return heights ++ [(c, below.foldl (fun h height => max h (height + 1)) 0)]) []

/-- Puts a component into the layer of its height, if there is such a layer. -/
def place? (layers : List (List Names)) (c : Names) (height : Nat) : Option (List (List Names)) :=
  if height < layers.length then some (layers.modify height (· ++ [c])) else none

/-- The layers, if every look-up on the way to them succeeds. -/
def layers? (g : CallGraph) : Option (List (List Names)) := do
  let heights ← g.heights?
  let count := heights.foldl (fun n (_, height) => max n (height + 1)) 0
  g.components.foldlM (fun layers c => do place? layers c (← heights.lookup c))
    (List.replicate count [])

/-- The functions that no other function calls. -/
def roots (g : CallGraph) : List String :=
  (g.callers.entries.filter (fun (f, callers) => (callers.erase f).isEmpty)).map Prod.fst

/-- Graphs, components and layers in the order in which they are listed. -/
def toDocument (g : CallGraph) : Document :=
  let names (s : Names) : Document := .ofTexts s.toList
  let graph (edges : Graph) : Document :=
    .object (edges.entries.map (fun (v, successors) => (v, names successors)))
  let components (cs : List Names) : Document := .list (cs.map names)
  .object [
    ("callees", graph g.callees),
    ("callers", graph g.callers),
    ("sccs", components g.components),
    ("recursive", components (g.components.filter g.isRecursive)),
    ("layers", .list (g.layers.map components)),
    ("roots", .ofTexts g.roots)]

end CallGraph

end TaintFlow
