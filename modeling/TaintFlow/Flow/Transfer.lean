import TaintFlow.Document.Coerce
import TaintFlow.Flow.Effect
import TaintFlow.Flow.State
import TaintFlow.Program.Basic
import TaintFlow.Rules.Registry

/-!
# What a node does to a state

Assignments and returns carry the taint of their operands. What a call does depends on its role: a
source makes a fresh label, a sanitizer lets its arguments pass (whether they are neutralized is
judged on the path), a call into the program applies the effect of the called function, and any other
call lets its arguments pass through unknown code. Branches move no data.
-/

namespace TaintFlow

/-- A function together with everything that its analysis looks up. -/
structure Frame where
  function : Function
  rules : Registry
  /-- The effects of called functions, as far as they are known. -/
  effects : String → Option Effect
  globals : Names
  /-- The ids of all functions of the program. -/
  known : Names

/-- How a call is analysed. -/
inductive CallRole where
  | source (rule : SourceRule)
  | sanitizer
  | resolved (callee : String) (effect : Effect)
  /-- A call into the program to a function that could not be analysed. -/
  | degraded
  | unresolved

namespace Frame

/-- The function of the program that a call is resolved to. -/
def calleeOf (frame : Frame) (n : Node) : Option String :=
  match n.callee with
  | .text callee => if n.dynamic = false ∧ callee ∈ frame.known then some callee else none
  | _ => none

def role (frame : Frame) (n : Node) : CallRole :=
  match frame.rules.source? n.api with
  | some rule => .source rule
  | none =>
    if frame.rules.isSanitizer n.api then .sanitizer
    else
      match frame.calleeOf n with
      | none => .unresolved
      | some callee =>
        let effect := (frame.effects callee).getD .pending
        if effect.unknown then .degraded else .resolved callee effect

end Frame

namespace Node

def argTaint (n : Node) (s : State) : List TaintSet := n.argSlots.map s.taintOf

/-- The taint of the receiver; without one there is none. -/
def receiverTaint (n : Node) (s : State) : TaintSet :=
  if n.receiver.isNull then ∅ else s.taintOf n.receiver.key?

/-- The taint of all arguments and the receiver. -/
def inputTaint (n : Node) (s : State) : TaintSet :=
  let joined := TaintSet.join (n.argTaint s)
  match n.receiverSlot? with
  | some slot => joined ∪ s.taintOf (some slot)
  | none => joined

def operandTaint (n : Node) (s : State) : TaintSet :=
  .join (n.operandSlots.map (fun slot => s.taintOf (some slot)))

/-- Writes the result of a call, if it is kept. -/
def assignResult (n : Node) (s : State) (taint : TaintSet) (key : String) : State :=
  match n.targetSlot? with
  | some target => s.assign target taint key
  | none => s

/-- The taint that a call passes to an input of the called function. -/
def passedTaint (n : Node) (s : State) (input : String) : TaintSet :=
  match globalOfMarker? input with
  | some name => s.taintOf (some (.text name))
  | none =>
    let args := n.argTaint s
    let passed := ((List.range args.length).map paramMarker).zip args
    ((passed ++ [(receiverMarker, n.receiverTaint s)]).lookup input).getD ∅

end Node

namespace Effect

/-- The taint that a call passes along a flow. -/
def carried (n : Node) (s : State) (key : String) (t : Transfer) : TaintSet :=
  match t.input with
  | .text input => (n.passedTaint s input).extend key t.mark
  | _ => ∅

/-- The taints that a call delivers to the outputs of the called function, in the order in which
they arise. -/
def delivered (e : Effect) (n : Node) (s : State) (key : String) : List (Atom × TaintSet) :=
  let carried := e.transfers.toList.map (fun t => (t.output, carried n s key t))
  let made := e.generated.entries.map (fun (output, taint) =>
    (.text output, taint.extend key false))
  (carried ++ made).filter (fun (_, taint) => !taint.isEmpty)

/-- The outputs that a call delivers to, each once, with everything delivered to it. -/
def outputs (e : Effect) (n : Node) (s : State) (key : String) : List (Atom × TaintSet) :=
  let delivered := e.delivered n s key
  (delivered.map Prod.fst).eraseDups.map (fun output =>
    (output, .join ((delivered.filter (fun d => d.1 = output)).map Prod.snd)))

/-- The index of the parameter that an output is written to, in any notation of whole numbers. -/
def outputIndex (output : String) : Result (Option Int) :=
  match Text.after? "param:" output with
  | some index => do return some (← Document.wholeIn index)
  | none => .ok none

/-- The argument with an index; a negative one counts from the end. -/
def argAt (n : Node) (index : Int) : Option Slot :=
  let position := if index < 0 then index + n.args.length else index
  if position < 0 then none else n.argSlots.getD position.toNat none

/-- The slot of the caller that an output is written to, apart from the result. -/
def outputSlot? (n : Node) : Atom → Option Slot
  | .text output =>
    match paramOfMarker? output with
    | some index => n.argSlots.getD index none
    | none =>
      match outputIndex output with
      | .ok (some index) => argAt n index
      | .ok none => (globalOfMarker? output).map .text
      | .error _ => none
  | _ => none

/-- Why an output cannot be written: it is no text, or names no index, or one before the first
argument. -/
def outputFault? (n : Node) : Atom → Option Fault
  | .text output =>
    match outputIndex output with
    | .ok (some index) => if index < -(n.args.length : Int) then some .outOfRange else none
    | .ok none => none
    | .error fault => some fault
  | _ => some .notAnObject

/-- Why the flows cannot be gone through: they have no order, or one of them starts at no text. -/
def flowFault? (e : Effect) : Option Fault :=
  let ts := e.transfers.toList
  if !(ts.zip (ts.drop 1)).all (fun (a, b) => Atom.areComparable a.members b.members) then
    some .wrongKind
  else if ts.any (fun t => t.input.rank ≠ 0) then some .notAnObject
  else none

/-- Why the effect cannot be applied at a call. -/
def fault? (e : Effect) (n : Node) (s : State) (key : String) : Option Fault :=
  e.flowFault?.or ((e.outputs n s key).findSome? (fun (output, _) => outputFault? n output))

/-- The state after a call with this effect. -/
def apply (e : Effect) (globals : Names) (n : Node) (s : State) (key : String) : State :=
  let outputs := e.outputs n s key
  let s := n.assignResult s ((outputs.lookup (.text returnSlot)).getD ∅) key
  let s := outputs.foldl (fun s (output, taint) =>
    match outputSlot? n output with
    | some slot => s.weakAssign slot taint key
    | none => s) s
  e.exitDefs.keys.foldl (fun s output =>
    match globalOfMarker? output with
    | some name => if name ∈ globals then s.addDefinition (.text name) key else s
    | none => s) s

end Effect

namespace Frame

def transferCall (frame : Frame) (key : String) (n : Node) (s : State) : State :=
  match frame.role n with
  | .source rule => n.assignResult s (.of (.source rule.origin key rule.context)) key
  | .sanitizer => n.assignResult s ((n.inputTaint s).extend key false) key
  | .resolved _ effect => effect.apply frame.globals n s key
  | .degraded =>
    n.assignResult s (((n.inputTaint s).markUnknown key).add
      (.source .unknownExternal key none)) key
  | .unresolved => n.assignResult s ((n.inputTaint s).markUnknown key) key

/-- The state after a node. -/
def transfer (frame : Frame) (id : String) (n : Node) (s : State) : State :=
  let key := frame.function.key id
  match n.kind with
  | .assign =>
    match n.target.key? with
    | some target => s.assign target ((n.operandTaint s).extend key false) key
    | none => s
  | .ret => s.weakAssign (.text returnSlot) ((n.operandTaint s).extend key false) key
  | .call => frame.transferCall key n s
  | .branch | .nop => s

/-- Why a call cannot be passed in a state. What it names has to be something that can be searched
by, as far as the name is looked up at all. -/
def callFault? (frame : Frame) (key : String) (n : Node) (s : State) : Option Fault :=
  if !n.api.isName then some .wrongKind
  else
    match frame.role n with
    | .source _ | .sanitizer => none
    | .resolved _ effect =>
      if n.receiver.key?.isNone then some .wrongKind else effect.fault? n s key
    | .degraded | .unresolved => if n.callee.key?.isNone then some .wrongKind else none

/-- Why a node cannot be passed in a state. -/
def fault? (frame : Frame) (id : String) (n : Node) (s : State) : Option Fault :=
  match n.kind with
  | .assign => if n.target.key?.isNone then some .wrongKind else none
  | .call => frame.callFault? (frame.function.key id) n s
  | .branch | .ret | .nop => none

end Frame

end TaintFlow
