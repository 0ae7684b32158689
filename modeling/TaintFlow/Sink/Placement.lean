import TaintFlow.Context.Composite
import TaintFlow.Flow.Analysis

/-!
# The context of a sink argument

An argument's context starts from the layers that the rule declares for the sink and those that
enclose the argument at the call. It is refined by walking back through the definition of the
argument, as long as there is exactly one, over copies and over assignments that embed it into a
further context. An embedding counts only when no tainted operand stands outside it.
-/

namespace TaintFlow

namespace Placement

/-- Where a walk stands: the slot whose definition is looked for, and the node that reads it. -/
structure Position where
  slot : String
  node : String

/-- What is known about a function's definitions. Without tainted operands nothing is excluded. -/
structure Knowledge where
  reaching : NameMap (KeyMap Names)
  tainted : Option (NameMap Names)

/-- The assignment that alone defines the slot of a position, with its id. -/
def definition? (f : Function) (k : Knowledge) (at' : Position) : Option (String × Node) :=
  match ((k.reaching.getD at'.node ∅).getD (.text at'.slot) ∅).toList with
  | [key] =>
    let (owner, id) := Program.splitKey key
    if owner = f.id then
      match f.node? id with
      | some n => if n.kind = .assign then some (id, n) else none
      | none => none
    else none
  | _ => none

/-- The operands that an assignment embeds. -/
def embedded (n : Node) : List String := n.operands.filter n.embeds.contains

/-- Whether a tainted operand of an assignment stands outside its embeddings. -/
def isSpoiled (k : Knowledge) (id : String) (n : Node) : Bool :=
  match k.tainted with
  | some tainted => (tainted.getD id ∅).toList.any (fun slot => slot ∉ embedded n)
  | none => false

/-- The contexts into which an assignment places its value, and the operand to follow further.
Nothing if the walk ends before the assignment adds anything. -/
def step? (k : Knowledge) (id : String) (n : Node) : Option (List Context × Option String) :=
  if n.embeds.isEmpty then
    match n.operands with
    | [slot] => some ([], some slot)
    | _ => none
  else if isSpoiled k id n then none
  else
    match ((embedded n).map (fun slot => n.embeds.getD slot [])).eraseDups with
    | [placed] =>
      match embedded n with
      | [slot] => some (placed, some slot)
      | _ => some (placed, none)
    | _ => none

/-- The contexts collected on the way back, outermost first. No definition is passed twice. -/
def walk (f : Function) (k : Knowledge) : Nat → List String → Position → List Context
  | 0, _, _ => []
  | fuel + 1, passed, at' =>
    match definition? f k at' with
    | none => []
    | some (id, n) =>
      if id ∈ passed then []
      else
        match step? k id n with
        | none => []
        | some (placed, none) => placed
        | some (placed, some slot) => placed ++ walk f k fuel (id :: passed) ⟨slot, id⟩

/-- The slot of an argument. A negative index counts from the end; one beyond the arguments has no
slot, one before them is a fault. -/
def slotAt (n : Node) (index : Int) : Result (Option String) :=
  if 0 ≤ index then .ok (n.args.getD index.toNat none)
  else
    match n.args[(index + n.args.length).toNat]? with
    | some slot => if 0 ≤ index + n.args.length then .ok slot else .error .outOfRange
    | none => .error .outOfRange

/-- The argument that a document points at: the contexts around it and its slot. A real number
points beyond the arguments or nowhere. -/
def argumentAt (n : Node) (index : Document) : Result (List Context × Option String) := do
  let around := match index.key? with
    | some (.whole i) => n.enclosing.getD i []
    | _ => []
  match ← index.amount with
  | .real x =>
    if (Amount.real x).isBelow (.whole n.args.length) then .error .wrongKind
    else return (around, none)
  | a => return (around, ← slotAt n (← a.toDocument.toWhole))

/-- The layers of a sink argument with the contexts around it, outermost first, repetitions
included. -/
def layers (f : Function) (k : Knowledge) (rule : SinkRule) (id : String)
    (around : List Context) (slot : Option String) : List Context :=
  let declared := rule.layers ++ around
  match slot with
  | some slot => declared ++ walk f k (f.nodes.size + 1) [] ⟨slot, id⟩
  | none => declared

end Placement

end TaintFlow
