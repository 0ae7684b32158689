import TaintFlow.Flow.Edge
import TaintFlow.Flow.Transfer

/-!
# What is recorded at a node

Besides its states an analysis keeps what later stages need: the flow edges from which paths are
enumerated, the taint of the arguments at sinks and at calls into the program, the nodes at which
taint originates, and the definitions that reach each node. None of it influences the states.
-/

namespace TaintFlow

/-- The taint of the arguments of a sink call. -/
structure SinkObservation where
  node : String
  api : String
  args : List TaintSet
deriving DecidableEq, Repr

/-- The taint that a call passes to a function of the program. -/
structure CallObservation where
  callee : String
  args : List TaintSet
  receiver : TaintSet
deriving DecidableEq, Repr

structure Observations where
  edges : OrderedSet FlowEdge
  /-- By the key of the call. -/
  sinks : NameMap SinkObservation
  /-- By the key of the call, in the order in which the calls were first met. -/
  calls : Table CallObservation
  origins : NameMap (OrderedSet Origin)
  /-- The definitions that reach each slot, by the id of the node. -/
  reaching : NameMap (KeyMap Names)
  /-- Operands that were seen with a concrete taint, by the id of the assignment. -/
  tainted : NameMap Names
  /-- Keys of the calls that are neither resolved nor modelled. -/
  unresolved : Names
deriving DecidableEq, Repr

namespace Observations

def empty : Observations := ⟨∅, ∅, ∅, ∅, ∅, ∅, ∅⟩

def addEdges (o : Observations) (edges : List FlowEdge) : Observations :=
  { o with edges := o.edges.insertAll edges }

def addOrigin (o : Observations) (key : String) (origin : Origin) : Observations :=
  { o with origins := o.origins.set key (.singleton origin) }

end Observations

/-- The edges from the definitions of some slots to a use of them. -/
def useEdges (kind : EdgeKind) (key : String) (slots : List (Option Slot)) (s : State) :
    List FlowEdge :=
  slots.flatMap (fun slot => (s.defsOf slot).toList.map (fun d => ⟨d, key, kind, slot, none⟩))

namespace Node

def operandEdges (n : Node) (key : String) (s : State) : List FlowEdge :=
  useEdges .plain key (n.operandSlots.map some) s

/-- The edges of everything that a call reads. -/
def readEdges (n : Node) (kind : EdgeKind) (key : String) (s : State) : List FlowEdge :=
  useEdges kind key (n.reads.map some) s

/-- The arguments with their indices. -/
def indexedArgs (n : Node) : List (Nat × Option String) :=
  (List.range n.args.length).zip n.args

/-- The slots of the arguments that a sink checks. -/
def checkedArgs (n : Node) (rule : SinkRule) : List (Option Slot) :=
  (n.indexedArgs.filter (fun (i, _) => rule.checks i)).map (fun (_, slot) => slot.map .text)

/-- The edges into the parameters and the receiver of a called function. -/
def callEdges (n : Node) (key callee : String) (s : State) : List FlowEdge :=
  let args := n.indexedArgs.flatMap (fun (i, arg) =>
    let slot := arg.map Key.text
    (s.defsOf slot).toList.map (fun d =>
      ⟨d, functionKey callee (paramMarker i), .call, slot, some key⟩))
  let receiver := match n.receiverSlot? with
    | some slot => (s.defsOf (some slot)).toList.map (fun d =>
        ⟨d, functionKey callee receiverMarker, .call, some slot, some key⟩)
    | none => []
  args ++ receiver

end Node

/-- The edges from the end of a called function back to the call. -/
def Effect.returnEdges (e : Effect) (key : String) : List FlowEdge :=
  e.exitDefs.values.flatMap (fun defs => defs.toList.map (fun d => ⟨d, key, .ret, none, some key⟩))

namespace Frame

/-- Records the arguments of a sink call. -/
def observeSink (frame : Frame) (id key : String) (n : Node) (s : State) (o : Observations) :
    Observations :=
  match frame.rules.sink? n.api with
  | none => o
  | some rule =>
    { o with sinks := o.sinks.set key ⟨id, n.api.asText, n.argTaint s⟩ }.addEdges
      (useEdges .plain key (n.checkedArgs rule) s)

def observeCall (frame : Frame) (id key : String) (n : Node) (s : State) (o : Observations) :
    Observations :=
  let o := frame.observeSink id key n s o
  match frame.role n with
  | .source rule => o.addOrigin key rule.origin
  | .sanitizer => o.addEdges (n.readEdges .plain key s)
  | .resolved callee effect =>
    { o with calls := o.calls.set key ⟨callee, n.argTaint s, n.receiverTaint s⟩ }.addEdges
      (n.callEdges key callee s ++ effect.returnEdges key)
  | .degraded => (o.addEdges (n.readEdges .unknown key s)).addOrigin key .unknownExternal
  | .unresolved =>
    if (frame.rules.sink? n.api).isSome then o
    else { o with unresolved := o.unresolved.insert key }.addEdges (n.readEdges .unknown key s)

/-- Records the operands that carry a concrete taint. -/
def observeTainted (id : String) (n : Node) (s : State) (o : Observations) : Observations :=
  let tainted := n.operands.filter (fun slot => !(s.taintOf (some (.text slot))).origins.isEmpty)
  if tainted.isEmpty then o
  else { o with tainted := o.tainted.set id ((o.tainted.getD id ∅).insertAll tainted) }

/-- Records what a node shows in the state before it. -/
def observe (frame : Frame) (id : String) (n : Node) (s : State) (o : Observations) :
    Observations :=
  let key := frame.function.key id
  let o := { o with reaching := o.reaching.set id s.defs }
  match n.kind with
  | .assign => observeTainted id n s (o.addEdges (n.operandEdges key s))
  | .ret => o.addEdges (n.operandEdges key s)
  | .call => frame.observeCall id key n s o
  | .branch | .nop => o

end Frame

end TaintFlow
