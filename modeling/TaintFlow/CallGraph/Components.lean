import TaintFlow.Collection.Insertion
import TaintFlow.Collection.OrderedMap
import TaintFlow.Collection.OrderedSet

/-!
# Strongly connected components

Two vertices belong to one component when each can be reached from the other. A depth-first search
numbers the vertices as it enters them, and keeps for each of them the least number that is known to
lie within its reach. A vertex that is left while this is its own number completes a component:
itself and all that was put on the stack after it. Whatever a component leads to is completed before
it, and listed before it.
-/

namespace TaintFlow

/-- A directed graph: the successors of some vertices. A vertex without an entry has none. -/
abbrev Graph := NameMap Names

namespace Graph

def successors (g : Graph) (v : String) : Names := g.getD v ∅

/-- Every vertex that has an entry or is a successor. -/
def vertices (g : Graph) : Names :=
  g.values.foldl (fun found s => found ∪ s) (.ofList g.keys)

/-- A vertex that was entered and not left, with the successors that were not looked at yet. -/
structure Visit where
  vertex : String
  ahead : List String
deriving DecidableEq, Repr

/-- How far a search for components has come. -/
structure Search where
  /-- The number that the next vertex gets. -/
  count : Nat
  index : NameMap Nat
  /-- The least number of a vertex on the stack that each vertex is known to lead to. -/
  lowlink : NameMap Nat
  /-- The vertices that are in no component yet, the last one first. -/
  stack : List String
  onStack : Names
  /-- The way from the first vertex to the one that is looked at, the last one first. -/
  visits : List Visit
  /-- The components in the order in which they were completed. -/
  found : List (List String)
deriving DecidableEq, Repr

namespace Search

def initial : Search := ⟨0, ∅, ∅, [], ∅, [], []⟩

/-- Numbers a vertex, so that its successors are looked at next. -/
def enter (g : Graph) (s : Search) (v : String) : Search :=
  { s with
    count := s.count + 1
    index := s.index.set v s.count
    lowlink := s.lowlink.set v s.count
    stack := v :: s.stack
    onStack := s.onStack.insert v
    visits := ⟨v, (g.successors v).toList⟩ :: s.visits }

/-- Notes that a vertex leads to one that has a number. -/
def lower? (s : Search) (v : String) (number : Nat) : Option Search := do
  let low ← s.lowlink.get? v
  return { s with lowlink := s.lowlink.set v (min low number) }

/-- Looks at a successor of a vertex. -/
def look? (g : Graph) (s : Search) (v w : String) : Option Search :=
  match s.index.get? w with
  | none => some (s.enter g w)
  | some number => if w ∈ s.onStack then s.lower? v number else some s

/-- What a stack holds down to a vertex, and what it holds below. -/
def cut? (v : String) : List String → Option (List String × List String)
  | [] => none
  | w :: stack =>
    if w = v then some ([w], stack)
    else do
      let (members, rest) ← cut? v stack
      return (w :: members, rest)

/-- Lists some vertices as a component, which leaves the given stack. -/
def close (s : Search) (members stack : List String) : Search :=
  { s with
    stack := stack
    onStack := members.foldl .erase s.onStack
    found := s.found ++ [Insertion.sort (fun a b => compare a b = .lt) members] }

/-- Takes a component off the stack, down to the vertex that completes it. -/
def complete? (s : Search) (v : String) : Option Search := do
  let (members, stack) ← cut? v s.stack
  return s.close members stack

/-- Notes that the last vertex on the way, if there is one, leads to one that has a number. -/
def handBack? (s : Search) (number : Nat) : Option Search :=
  match s.visits with
  | [] => some s
  | visit :: _ => s.lower? visit.vertex number

/-- Leaves a vertex that was taken off the way. -/
def leave? (s : Search) (v : String) : Option Search := do
  let low ← s.lowlink.get? v
  let s ← s.handBack? low
  let number ← s.index.get? v
  if low = number then s.complete? v else return s

/-- Looks at the next successor of the vertex at the end of the way, or leaves the vertex. -/
def step? (g : Graph) (s : Search) : Option Search :=
  match s.visits with
  | [] => some s
  | ⟨v, []⟩ :: visits => { s with visits }.leave? v
  | ⟨v, w :: ahead⟩ :: visits => { s with visits := ⟨v, ahead⟩ :: visits }.look? g v w

/-- Takes steps until every vertex that was entered is left, at most `n` of them. -/
def run? (g : Graph) : Nat → Search → Option Search
  | 0, s => some s
  | n + 1, s =>
    if s.visits.isEmpty then some s
    else do
      let s ← s.step? g
      s.run? g n

end Search

/-- One step for each edge and one for each vertex. -/
def effort (g : Graph) : Nat :=
  g.vertices.toList.foldr (fun v n => (g.successors v).size + 1 + n) 0

/-- Searches from a vertex, unless it was entered before. -/
def searchFrom? (g : Graph) (s : Search) (v : String) : Option Search :=
  if s.index.contains v then some s else (s.enter g v).run? g g.effort

/-- The components as sorted lists, if every look-up of the search succeeds. -/
def components? (g : Graph) : Option (List (List String)) := do
  let s ← g.keys.foldlM g.searchFrom? .initial
  return s.found

/-- The components, whatever a component leads to coming before it. -/
def components (g : Graph) : List Names := (g.components?.getD []).map .ofList

end Graph

end TaintFlow
