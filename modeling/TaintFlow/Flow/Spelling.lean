import TaintFlow.Document.Text
import TaintFlow.Flow.Edge
import TaintFlow.Program.Basic

/-!
# How slots are shown

A slot is found by its value and shown the way it was first written: `1`, `1.0` and `true` are one
slot, known by the name that the receiver or the first node to write it uses. Nodes write in the
order in which control first reaches them.
-/

namespace TaintFlow

/-- The name of a document as a field of an object. -/
def Document.fieldName : Document → String
  | .text name => name
  | other => other.write .compact

namespace Node

/-- What a node writes to. -/
def written (n : Node) : List Document :=
  match n.kind with
  | .assign => [n.target]
  | .call => if n.target.isTruthy then [n.target] else []
  | .branch | .ret | .nop => []

end Node

namespace Function

/-- The nodes that control reaches in the order in which it first does, at most `fuel` of them. -/
def reachedFrom (f : Function) : Nat → List String → List String → List String
  | 0, reached, _ => reached
  | _, reached, [] => reached
  | fuel + 1, reached, id :: queue =>
    let next := (((f.node? id).map Node.succ).getD []).eraseDups.filter (fun succ =>
      succ ∉ reached ∧ succ ∉ queue ∧ succ ≠ id)
    f.reachedFrom fuel (reached ++ [id]) (queue ++ next)

/-- Everything that is written to, in the order of the first writes. -/
def writtenInOrder (f : Function) : List Document :=
  let order := f.reachedFrom f.nodes.size [] [f.entry]
  (if f.receiver.isTruthy then [f.receiver] else [])
    ++ order.flatMap (fun id => ((f.node? id).map Node.written).getD [])

/-- The name under which a slot is shown. -/
def slotName (f : Function) (slot : Slot) : String :=
  match slot with
  | .text name => name
  | other =>
    match f.writtenInOrder.find? (fun d => d.key? = some other) with
    | some d => d.fieldName
    | none => other.name

/-- The slot of an edge as the node that reads it has it: apart from texts, only receivers. -/
def edgeSlot (f : Function) (e : FlowEdge) : Document :=
  match e.slot with
  | none => .null
  | some (.text name) => .text name
  | some other =>
    let reader := e.site.getD e.dst
    match f.nodes.entries.find? (fun (id, _) => f.key id = reader) with
    | some (_, n) => n.receiver
    | none => other.toDocument

end Function

end TaintFlow
