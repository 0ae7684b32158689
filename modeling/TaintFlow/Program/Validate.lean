import TaintFlow.Fault
import TaintFlow.Program.Basic

/-!
# Structural preconditions of a function

The entry and every successor exist, parameters have different names, a return ends the function,
an assignment has a target, and a call names what it calls.
-/

namespace TaintFlow

namespace Node

/-- Whether a document is the id of one of the functions. -/
def isKnown (known : Names) : Document → Bool
  | .text id => id ∈ known
  | _ => false

/-- The first precondition that a node breaks. -/
def defect? (f : Function) (known : Names) (id : String) (n : Node) : Option Malformed.Cause :=
  match n.succ.find? (fun s => !f.nodes.contains s) with
  | some successor => some (.danglingSuccessor id successor)
  | none =>
    match n.kind with
    | .ret => if n.succ.isEmpty then none else some (.returnWithSuccessors id)
    | .assign => if n.target.isTruthy then none else some (.assignWithoutTarget id)
    | .call =>
      if !n.callee.isNull then
        if isKnown known n.callee then none else some (.danglingCall id n.callee)
      else if n.api.isNull && !n.dynamic then some (.unnamedCall id)
      else none
    | _ => none

end Node

namespace Function

/-- The first precondition that a function breaks, given the ids of all functions. -/
def defect? (f : Function) (known : Names) : Option Malformed.Cause :=
  if !f.nodes.contains f.entry then some (.missingEntry f.entry)
  else if f.paramNames.eraseDups.length ≠ f.paramNames.length then
    some (.duplicateParameters f.paramNames)
  else f.nodes.entries.findSome? (fun (id, node) => node.defect? f known id)

/-- Fails with the first precondition that a function breaks. A call of something that is no name at
all cannot even be looked up. -/
def validate (f : Function) (known : Names) : Result Unit :=
  match f.defect? known with
  | none => .ok ()
  | some (.danglingCall id callee) =>
    if callee.key?.isNone then .error .wrongKind
    else .error (.malformed ⟨f.id, .danglingCall id callee⟩)
  | some cause => .error (.malformed ⟨f.id, cause⟩)

def isValid (f : Function) (known : Names) : Bool := (f.defect? known).isNone

end Function

end TaintFlow
