import TaintFlow.Flow.Observation
import TaintFlow.Number.Amount

/-!
# The analysis of one function

A forward worklist over the control-flow graph. A node is visited with the join of the states of the
edges that lead to it, and again whenever that join grows; the number of visits is bounded by a
budget. What reaches the nodes without a successor is the state at the end of the function.
-/

namespace TaintFlow

structure Analysis where
  function : String
  exit : State
  seen : Observations
  visits : Nat
  /-- The globals that the function mentions. -/
  globals : Names
deriving DecidableEq, Repr

namespace Analysis

def unknownEdges (a : Analysis) : Nat := (a.seen.edges.toList.filter FlowEdge.isUnknown).length

def nodesAnalyzed (a : Analysis) : Nat := a.seen.reaching.size

end Analysis

namespace Frame

def globalsRead (frame : Frame) : Names := frame.function.globalsIn frame.globals

/-- The state before the entry, from the taint of parameters, receiver and globals. -/
def entryState (frame : Frame) (inputs : KeyMap TaintSet) : State :=
  let f := frame.function
  let s := f.indexedParams.foldl (fun s (i, p) =>
    s.assign (.text p.name) (inputs.getD (.text p.name) ∅) (f.paramKey i)) .empty
  let s := match f.receiverSlot? with
    | some receiver => s.assign receiver (inputs.getD receiver ∅) f.receiverKey
    | none => s
  frame.globalsRead.toList.foldl (fun s name =>
    if s.defs.contains (.text name) then s
    else s.assign (.text name) (inputs.getD (.text name) ∅) (globalKey name)) s

/-- The parameters that are sources of the program. -/
def entryObservations (frame : Frame) : Observations :=
  frame.function.indexedParams.foldl (fun o (i, p) =>
    match p.origin with
    | some origin => o.addOrigin (frame.function.paramKey i) origin
    | none => o) .empty

end Frame

/-- How far a worklist has come. -/
structure Progress where
  /-- The join of what flows into each node that was reached. -/
  before : NameMap State
  /-- The state after each visited node, in the order of the first visits. -/
  after : Table State
  /-- The nodes that are still to be visited, each once. -/
  queue : List String
  visits : Nat
  seen : Observations
deriving DecidableEq, Repr

namespace Progress

/-- Queues a node, unless it is queued already. -/
def enqueue (p : Progress) (id : String) : Progress :=
  if id ∈ p.queue then p else { p with queue := p.queue ++ [id] }

/-- Lets a state flow into a node, which is queued when its own state grows. -/
def flowInto (out : State) (p : Progress) (id : String) : Progress :=
  match p.before.get? id with
  | none => { p with before := p.before.set id out }.enqueue id
  | some current =>
    if current.grows out then { p with before := p.before.set id (current.join out) }.enqueue id
    else p

end Progress

namespace Frame

def start (frame : Frame) (inputs : KeyMap TaintSet) : Progress where
  before := OrderedMap.empty.set frame.function.entry (frame.entryState inputs)
  after := ∅
  queue := [frame.function.entry]
  visits := 0
  seen := frame.entryObservations

/-- Visits a node that was taken off the queue. -/
def visit (frame : Frame) (p : Progress) (id : String) (n : Node) : Progress :=
  let s := p.before.getD id .empty
  let out := frame.transfer id n s
  let p := { p with after := p.after.set id out, seen := frame.observe id n s p.seen }
  n.succ.foldl (Progress.flowInto out) p

/-- The fault of a function whose budget is used up. -/
def divergence (frame : Frame) (budget : Amount) (visits : Nat) : Fault :=
  match budget.toDocument.showable with
  | .ok shown => .divergent frame.function.id shown visits
  | .error fault => fault

/-- Visits queued nodes until none is left, at most `fuel` of them. -/
def loop (frame : Frame) (budget : Amount) : Nat → Progress → Result Progress
  | fuel, p =>
    match p.queue with
    | [] => .ok p
    | id :: queue =>
      match fuel with
      | 0 => .error (frame.divergence budget (p.visits + 1))
      | fuel + 1 =>
        match frame.function.node? id with
        | none => .error (.missing id)
        | some n =>
          match frame.fault? id n (p.before.getD id .empty) with
          | some fault => .error fault
          | none => frame.loop budget fuel
            (frame.visit { p with queue := queue, visits := p.visits + 1 } id n)

/-- Whether control leaves the function at a node. -/
def leavesAt (frame : Frame) (id : String) : Bool :=
  match frame.function.node? id with
  | some n => n.kind = .ret || n.succ.isEmpty
  | none => false

/-- The join of the states after the nodes at which control leaves. -/
def exitState (frame : Frame) (p : Progress) : State :=
  (p.after.entries.filter (fun (id, _) => frame.leavesAt id)).foldl
    (fun s (_, out) => s.join out) .empty

/-- The edges from the last definitions of the globals to the globals. -/
def globalEdges (frame : Frame) (exit : State) : List FlowEdge :=
  frame.globalsRead.toList.flatMap (fun name =>
    ((exit.defsOf (some (.text name))).erase (globalKey name)).toList.map (fun d =>
      ⟨d, globalKey name, .global, none, none⟩))

/-- How many visits a function may take, from how many each of its nodes may take. -/
def budget (frame : Frame) (maxVisits : Amount) : Amount :=
  maxVisits.times (max 1 frame.function.nodes.size)

/-- More visits than any analysis takes, for a budget that bounds none. -/
def ampleVisits : Nat := Nat.pow 10 30

def finish (frame : Frame) (p : Progress) : Analysis :=
  let exit := frame.exitState p
  ⟨frame.function.id, exit, p.seen.addEdges (frame.globalEdges exit), p.visits, frame.globalsRead⟩

/-- Analyses the function with the given taint of parameters, receiver and globals. -/
def analyze (frame : Frame) (maxVisits : Amount) (inputs : KeyMap TaintSet) : Result Analysis :=
  if frame.function.isSearchable then do
    let budget := frame.budget maxVisits
    return frame.finish
      (← frame.loop budget (budget.bound?.getD ampleVisits) (frame.start inputs))
  else .error .wrongKind

end Frame

namespace Function

/-- A marker for each parameter, the receiver and each global that the function mentions. -/
def symbolicInputs (f : Function) (globals : Names) : KeyMap TaintSet :=
  let inputs : KeyMap TaintSet := f.indexedParams.foldl (fun m (i, p) =>
    m.set (.text p.name) (.of (.symbolic (paramMarker i) (f.paramKey i)))) ∅
  let inputs := match f.receiverSlot? with
    | some receiver => inputs.set receiver (.of (.symbolic receiverMarker f.receiverKey))
    | none => inputs
  (f.globalsIn globals).toList.foldl (fun m name =>
    m.setIfAbsent (.text name) (.of (.symbolic (globalMarker name) (globalKey name)))) inputs

/-- The taint of the parameters that are sources of the program. -/
def declaredInputs (f : Function) : KeyMap TaintSet :=
  f.indexedParams.foldl (fun m (i, p) =>
    match p.origin with
    | some origin => m.set (.text p.name) (.of (.source origin (f.paramKey i) p.context))
    | none => m) ∅

end Function

end TaintFlow
