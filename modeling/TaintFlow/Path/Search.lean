import TaintFlow.Flow.Edge
import TaintFlow.Label
import TaintFlow.Collection.OrderedMap
import TaintFlow.Number.Amount

/-!
# Paths from an origin to a sink

Paths are enumerated backwards over the recorded flow edges, depth first. Calls and returns match
like brackets: a path that enters a function from its end at a call leaves it only at that call. A
step is taken only while the shortest way back to the origin still fits into the allowed depth.
-/

namespace TaintFlow

/-- A path from an origin to a sink; `unknownHops` are the positions that were entered through
unknown code. -/
structure FlowPath where
  nodes : List Atom
  unknownHops : List Nat
  /-- The path was taken from a label and not from the edges. -/
  truncated : Bool
deriving DecidableEq, Repr

namespace FlowPath

/-- The way that a label took, ended at the sink. -/
def ofProvenance (l : Label) (sink : Atom) : FlowPath :=
  let nodes := l.nodes
  let indexed := (List.range l.provenance.length).zip l.provenance
  let unknown := (indexed.filter (fun (_, hop) => hop.unknown)).map Prod.fst
  let arrives := nodes.getLast?.any (fun last => last.same sink)
  ⟨if arrives then nodes else nodes ++ [sink], unknown, true⟩

def toDocument (p : FlowPath) : Document :=
  .object [
    ("nodes", .list (p.nodes.map Atom.toDocument)),
    ("unknown_hops", .list (p.unknownHops.map .ofNat)),
    ("truncated", .bool p.truncated)]

end FlowPath

structure SearchLimits where
  maxDepth : Int
  maxPaths : Int
  maxStates : Int

/-- What paths are searched in: flow edges, and the keys at which taint originates. -/
structure FlowGraph where
  edges : OrderedSet FlowEdge
  origins : NameMap (OrderedSet Origin)

namespace FlowGraph

/-- The edges that lead to a key, in increasing order. -/
def into (g : FlowGraph) (key : String) : List FlowEdge :=
  g.edges.toList.filter (fun e => e.dst = key)

def carries (g : FlowGraph) (origin : Origin) (key : String) : Bool :=
  match g.origins.get? key with
  | some origins => origin ∈ origins
  | none => false

/-- The keys at which an origin enters. -/
def originKeys (g : FlowGraph) (origin : Origin) : List String :=
  g.origins.keys.filter (g.carries origin)

/-- The keys one edge further than those already reached. -/
def nextLevel (g : FlowGraph) (reached : NameMap Nat) (frontier : Names) : Names :=
  g.edges.toList.foldl (fun found e =>
    if e.src ∈ frontier ∧ reached.contains e.dst = false then found.insert e.dst else found) ∅

/-- The distances of all keys, level by level. -/
def levels (g : FlowGraph) : Nat → Nat → NameMap Nat → Names → NameMap Nat
  | 0, _, reached, _ => reached
  | fuel + 1, level, reached, frontier =>
    let next := g.nextLevel reached frontier
    if next.isEmpty then reached
    else g.levels fuel (level + 1)
      (next.toList.foldl (fun m key => m.set key (level + 1)) reached) next

/-- The fewest edges from any key of an origin to each key, brackets not regarded. -/
def distances (g : FlowGraph) (origin : Origin) : NameMap Nat :=
  let keys := g.originKeys origin
  g.levels (g.edges.size + 1) 0 (.ofList (keys.map (fun key => (key, 0)))) (.ofList keys)

/-- The distances from every origin that enters somewhere. Searches for one origin share them. -/
def distanceTable (g : FlowGraph) : OrderedMap Origin (NameMap Nat) :=
  let origins : OrderedSet Origin := g.origins.values.foldl (fun all found => all ∪ found) ∅
  .ofList (origins.toList.map (fun origin => (origin, g.distances origin)))

end FlowGraph

/-- A path that is being built, from the sink backwards. -/
structure PartialPath where
  node : String
  /-- The nodes from the sink to the current one, the current one last. -/
  back : List String
  /-- Whether each node was entered through an unknown edge, aligned with `back`. -/
  flags : List Bool
  /-- The calls whose ends were entered and not left again, the last one last. -/
  calls : List (Option String)
deriving DecidableEq, Repr

namespace PartialPath

/-- The finished path, from the origin to the sink. -/
def finish (p : PartialPath) : FlowPath :=
  let flags := p.flags.reverse.dropLast
  let unknown := ((List.range flags.length).zip flags).filter Prod.snd
  ⟨p.back.reverse.map .text, unknown.map (fun (i, _) => i + 1), false⟩

/-- The pending calls after an edge, if the edge respects them. -/
def callsAfter? (p : PartialPath) (e : FlowEdge) : Option (List (Option String)) :=
  match e.kind with
  | .ret => some (p.calls ++ [e.site])
  | .call =>
    match p.calls.getLast? with
    | none => some p.calls
    | some site => if site = e.site then some p.calls.dropLast else none
  | _ => some p.calls

/-- The path one edge further back. -/
def along? (p : PartialPath) (e : FlowEdge) : Option PartialPath :=
  (p.callsAfter? e).map (fun calls =>
    ⟨e.src, p.back ++ [e.src], p.flags ++ [e.isUnknown], calls⟩)

end PartialPath

/-- A search for the paths from one origin into one sink argument. -/
structure PathSearch where
  graph : FlowGraph
  limits : SearchLimits
  origin : Origin
  distances : NameMap Nat

namespace PathSearch

/-- Whether a path with this many nodes, the given one included, can still reach an origin. -/
def reachable (s : PathSearch) (node : String) (length : Nat) : Bool :=
  match s.distances.get? node with
  | some d => (length : Int) + d ≤ s.limits.maxDepth
  | none => false

/-- The partial paths that start at the edges into the sink's argument. -/
def start (s : PathSearch) (sink : String) (slot : Option Key) : List PartialPath :=
  ((s.graph.into sink).filter (fun e =>
    e.kind = .plain ∧ e.slot = slot ∧ s.reachable e.src 2 = true)).map (fun e =>
      ⟨e.src, [sink, e.src], [false, e.isUnknown], []⟩)

/-- The extensions of a partial path by one edge. -/
def extend (s : PathSearch) (p : PartialPath) : List PartialPath :=
  (s.graph.into p.node).filterMap (fun e =>
    if e.src ∈ p.back ∨ s.reachable e.src (p.back.length + 1) = false then none
    else p.along? e)

/-- The paths found so far, last first, with the number of states looked at. -/
structure Found where
  paths : List FlowPath
  states : Nat
  /-- The search ran out of states. -/
  exhausted : Bool

/-- Takes partial paths off a stack until it is empty or a limit is met. -/
def loop (s : PathSearch) : Nat → List PartialPath → Found → Found
  | fuel, stack, found =>
    match stack with
    | [] => found
    | p :: stack =>
      if s.limits.maxPaths ≤ found.paths.length then found
      else
        match fuel with
        | 0 => { found with exhausted := true }
        | fuel + 1 =>
          if s.graph.carries s.origin p.node then
            s.loop fuel stack
              { found with paths := p.finish :: found.paths, states := found.states + 1 }
          else
            s.loop fuel (s.extend p ++ stack) { found with states := found.states + 1 }

/-- All paths into a sink argument, up to the limits. -/
def run (s : PathSearch) (sink : String) (slot : Option Key) : Found :=
  let found := s.loop s.limits.maxStates.toNat (s.start sink slot) ⟨[], 0, false⟩
  { found with paths := found.paths.reverse }

end PathSearch

/-- Limits of a search as they are stated. -/
structure StatedLimits where
  maxDepth : Document
  maxPaths : Document
  maxStates : Document

namespace FlowGraph

/-- The graph of some edges, if they can be ordered. -/
def ofEdges (edges : List FlowEdge) (origins : NameMap (OrderedSet Origin)) : Result FlowGraph :=
  let edges : OrderedSet FlowEdge := .ofList edges
  if (edges.toList.zip (edges.toList.drop 1)).all (fun (a, b) => a.isComparable b) then
    .ok ⟨edges, origins⟩
  else .error .wrongKind

/-- Limits that no search in the graph goes beyond: no path has more nodes than there are edges and
one, and no two paths are the same. -/
def ample (g : FlowGraph) : SearchLimits :=
  let n := g.edges.size + 2
  ⟨2 * n, Nat.pow n n, Nat.pow n n⟩

/-- Searches for the paths from an origin into a sink argument. A limit that is no number is a fault
only where something is measured by it. -/
def search (g : FlowGraph) (stated : StatedLimits) (origin : Origin) (sink : String)
    (slot : Option Key) : Result PathSearch.Found := do
  let ample := g.ample
  let nothing : PathSearch.Found := ⟨[], 0, false⟩
  let distances := g.distances origin
  let within (limits : SearchLimits) : PathSearch := ⟨g, limits, origin, distances⟩
  if ((within ample).start sink slot).isEmpty then return nothing
  let depth := (← stated.maxDepth.amount).floorWithin (-1) ample.maxDepth
  if ((within { ample with maxDepth := depth }).start sink slot).isEmpty then return nothing
  let paths := (← stated.maxPaths.amount).ceilingWithin 0 ample.maxPaths 0
  if paths = 0 then return nothing
  let states := (← stated.maxStates.amount).ceilingWithin 0 ample.maxStates ample.maxStates
  return (within ⟨depth, paths, states⟩).run sink slot

end FlowGraph

end TaintFlow
