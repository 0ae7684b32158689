import TaintFlow.Summary.Resolve

/-!
# The whole program with concrete taint

Starting from the entry functions, every function that is reached is analysed with the taint that its
callers pass in and that globals hold. A function is analysed again when either grows, up to a limit
of rounds. Calls are resolved through the published summaries.
-/

namespace TaintFlow

structure ConcreteLimits where
  maxVisits : Int
  maxRounds : Nat

/-- What the pass works on. -/
structure ConcretePass where
  program : Program
  rules : Registry
  summaries : NameMap Summary
  graph : CallGraph
  limits : ConcreteLimits

/-- The analyses of all functions that were reached, and how far the pass has come. -/
structure ConcreteState where
  /-- The taint that callers pass to the parameters and the receiver of each function. -/
  passed : NameMap (KeyMap TaintSet)
  globals : KeyMap TaintSet
  /-- How often each function was analysed. -/
  runs : NameMap Nat
  /-- The last analysis of each function, in the order of the first ones. -/
  analyses : Table Analysis
  failures : NameMap String
  truncated : Names
  queue : List String

namespace ConcreteState

def start (entries : List String) : ConcreteState := ⟨∅, ∅, ∅, ∅, ∅, ∅, entries⟩

def runsOf (c : ConcreteState) (id : String) : Nat := c.runs.getD id 0

def totalRuns (c : ConcreteState) : Nat := c.runs.values.foldl (· + ·) 0

/-- Queues a function, unless it is queued already. -/
def enqueue (c : ConcreteState) (id : String) : ConcreteState :=
  if id ∈ c.queue then c else { c with queue := c.queue ++ [id] }

end ConcreteState

/-- Adds a taint to a slot of a table, and says whether the slot grew. -/
def foldTaint (table : KeyMap TaintSet) (slot : Slot) (taint : TaintSet) :
    KeyMap TaintSet × Bool :=
  let current := table.getD slot ∅
  if taint.isEmpty || taint.isSubset current then (table, false)
  else (table.set slot (current ∪ taint), true)

namespace ConcretePass

/-- Whether a function has a summary that callers can use. -/
def isUsable (p : ConcretePass) (id : String) : Bool :=
  match p.summaries.get? id with
  | some s => !s.unknown
  | none => false

/-- Names in increasing order, each once. -/
def inOrder (names : List String) : List String := (OrderedSet.ofList names).toList

/-- Declared entry points, else the functions that nothing calls, else every usable function. -/
def entries (p : ConcretePass) : List String :=
  let usable := p.program.functions.entries.filter (fun (id, _) => p.isUsable id)
  let declared := inOrder ((usable.filter (fun (_, f) => f.entryPoint)).map Prod.fst)
  let roots := p.graph.roots.filter (fun id => id ∈ usable.map Prod.fst)
  if !declared.isEmpty then declared
  else if !roots.isEmpty then roots
  else inOrder (usable.map Prod.fst)

/-- The taint with which a function is analysed. -/
def inputs (p : ConcretePass) (c : ConcreteState) (f : Function) : KeyMap TaintSet :=
  let passed := ((c.passed.getD f.id ∅).entries).foldl (fun m (slot, taint) =>
    m.set slot (m.getD slot ∅ ∪ taint)) f.declaredInputs
  (f.globalsIn p.program.globals).toList.foldl (fun m name =>
    m.setIfAbsent (.text name) (c.globals.getD (.text name) ∅)) passed

def frame (p : ConcretePass) (f : Function) : Frame :=
  ⟨f, p.rules, fun id => (p.summaries.get? id).map Summary.toEffect, p.program.globals,
    p.program.functionIds⟩

/-- The taint that a call passes to each parameter and the receiver of the called function. -/
def passedBy (callee : Function) (call : CallObservation) : List (Slot × TaintSet) :=
  let params := (callee.indexedParams.zip call.args).map (fun ((i, p), taint) =>
    (Key.text p.name, taint.extend (callee.paramKey i) false))
  let receiver := match callee.receiverSlot? with
    | some slot => [(slot, call.receiver.extend callee.receiverKey false)]
    | none => []
  params ++ receiver

/-- Passes the arguments of a call on; a called function that gains taint or was never analysed is
added to those that are to be analysed. -/
def passCall (p : ConcretePass) (step : ConcreteState × List String) (call : CallObservation) :
    ConcreteState × List String :=
  let (c, affected) := step
  match p.program.functions.get? call.callee with
  | none => step
  | some callee =>
    if !p.isUsable callee.id then step
    else
      let (table, grown) := (passedBy callee call).foldl (fun (table, grown) (slot, taint) =>
        let (table, grew) := foldTaint table slot taint
        (table, grown || grew)) (c.passed.getD callee.id ∅, c.runsOf callee.id == 0)
      let c := { c with passed := c.passed.set callee.id table }
      if grown && callee.id ∉ affected then (c, affected ++ [callee.id]) else (c, affected)

/-- Adds the taint of a written global to the program's; readers of a global that gains taint are
added to those that are to be analysed. -/
def passGlobal (a : Analysis) (step : ConcreteState × List String) (name : String) :
    ConcreteState × List String :=
  let (c, affected) := step
  if ((a.exit.defsOf (some (.text name))).erase (globalKey name)).isEmpty then step
  else
    let (globals, grew) :=
      foldTaint c.globals (.text name)
        ((a.exit.taintOf (some (.text name))).extend (globalKey name) false)
    if grew then
      let readers := (c.analyses.entries.filter (fun (_, r) => name ∈ r.globals)).map Prod.fst
      ({ c with globals := globals }, affected ++ readers)
    else step

/-- Records an analysis and queues what it affects. -/
def record (p : ConcretePass) (c : ConcreteState) (id : String) (a : Analysis) : ConcreteState :=
  let c := { c with analyses := c.analyses.set id a }
  let step := a.seen.calls.values.foldl p.passCall (c, [])
  let (c, affected) := a.globals.toList.foldl (passGlobal a) step
  affected.foldl ConcreteState.enqueue c

/-- Analyses a function that was taken off the queue. -/
def runOne (p : ConcretePass) (c : ConcreteState) (id : String) : Result ConcreteState :=
  if c.runsOf id ≥ p.limits.maxRounds then
    .ok { c with truncated := c.truncated.insert id }
  else
    match p.program.functions.get? id with
    | none => .error (.missing id)
    | some f =>
      let c := { c with runs := c.runs.set id (c.runsOf id + 1) }
      match (p.frame f).analyze (.whole p.limits.maxVisits) (p.inputs c f) with
      | .ok a => .ok (p.record c id a)
      | .error fault =>
        if fault.isLocal then .ok { c with failures := c.failures.set id fault.message }
        else .error fault

/-- Analyses queued functions until none is left, at most `fuel` of them. -/
def loop (p : ConcretePass) : Nat → ConcreteState → Allowance → Result ConcreteState
  | 0, c, _ => .ok c
  | fuel + 1, c, allowance =>
    match c.queue with
    | [] => .ok c
    | id :: queue =>
      do
        let allowance ← allowance.check .concrete
        let c ← p.runOne { c with queue := queue } id
        p.loop fuel c allowance

/-- More than the functions that can be taken off the queue: each analysis queues every function at
most once, and each function is analysed at most as often as the limit says. -/
def fuel (p : ConcretePass) : Nat :=
  let count := p.program.functions.size
  count + count * p.limits.maxRounds * count + 1

/-- The end of a pass. If functions have used up their rounds, the user is told how many those were. -/
def finish (p : ConcretePass) (c : ConcreteState) : Result ConcreteState :=
  if c.truncated.isEmpty then .ok c
  else (Document.whole p.limits.maxRounds).showable.map (fun _ => c)

def run (p : ConcretePass) (allowance : Allowance) : Result ConcreteState := do
  p.finish (← p.loop p.fuel (.start p.entries) allowance)

end ConcretePass

end TaintFlow
