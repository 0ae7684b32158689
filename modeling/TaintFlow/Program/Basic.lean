import TaintFlow.Collection.OrderedMap
import TaintFlow.Collection.Table
import TaintFlow.Context
import TaintFlow.Document.Key
import TaintFlow.Origin
import TaintFlow.Program.Malformed

/-!
# Programs

A program is handed over by a language front end: a control-flow graph of typed nodes per function
and the call edges of every call node. Nothing is parsed from source text. Every node, parameter,
receiver and global has a key that names it across the whole program.

What a front end names (slots, called functions, files) stands as it was given, null if it was left
out. A name counts as present when it is truthy, and a slot can be any value without parts.
-/

namespace TaintFlow

inductive NodeKind where
  | assign
  | call
  | branch
  | ret
  | nop
deriving DecidableEq, Repr

namespace NodeKind

def all : List NodeKind := [assign, call, branch, ret, nop]

def name : NodeKind → String
  | assign => "assign"
  | call => "call"
  | branch => "branch"
  | ret => "return"
  | nop => "nop"

end NodeKind

/-- Where a value is kept: a parameter, a variable or a global. -/
abbrev Slot := Key

/-- The slot that a document names, if the document counts as present. -/
def Document.slot? (d : Document) : Option Slot := if d.isTruthy then d.key? else none

/-- Whether a document names a slot or nothing. -/
def Document.isName (d : Document) : Bool := !d.isTruthy || d.key?.isSome

/-- A node of a control-flow graph. Contexts of `embeds` and `enclosing` are outermost first. -/
structure Node where
  kind : NodeKind
  /-- Ids of the nodes that may run next. -/
  succ : List String
  /-- The slot that an assignment or the result of a call is written to. -/
  target : Document
  /-- The slots that an assignment or a return reads. -/
  operands : List String
  /-- Into which contexts an operand is placed while the target is built. -/
  embeds : NameMap (List Context)
  operator : Document
  /-- The name under which the rules know the called function. -/
  api : Document
  /-- The called function, if it belongs to the program. -/
  callee : Document
  /-- The front end could not resolve the call. -/
  dynamic : Bool
  /-- The slots passed as arguments; a literal has none. -/
  args : List (Option String)
  receiver : Document
  /-- Which contexts enclose an argument at the call itself, by its index. -/
  enclosing : OrderedMap Int (List Context)
  line : Int
  file : Document
deriving DecidableEq, Repr

namespace Node

/-- The slots passed as arguments. -/
def argSlots (n : Node) : List (Option Slot) := n.args.map (Option.map .text)

def operandSlots (n : Node) : List Slot := n.operands.map .text

/-- The slot of the receiver, if the call has one. -/
def receiverSlot? (n : Node) : Option Slot := n.receiver.slot?

/-- The slot to which the result of a call is written, if it is kept. -/
def targetSlot? (n : Node) : Option Slot := n.target.slot?

/-- Every slot that a node reads. -/
def reads (n : Node) : List Slot :=
  if n.kind = .call then n.argSlots.filterMap id ++ n.receiverSlot?.toList else n.operandSlots

/-- What a node reads, as it was given. -/
def readDocuments (n : Node) : List Document :=
  if n.kind = .call then
    (n.args.filterMap id).map .text ++ (if n.receiver.isTruthy then [n.receiver] else [])
  else n.operands.map .text

/-- Whether every slot that a node mentions can be searched by. -/
def isSearchable (n : Node) : Bool := n.target.isName && (n.kind ≠ .call || n.receiver.isName)

end Node

/-- A formal parameter. An origin makes it a source of the program. -/
structure Param where
  name : String
  origin : Option Origin
  out : Bool
  context : Option Context
deriving DecidableEq, Repr

structure Function where
  id : String
  nodes : Table Node
  entry : String
  params : List Param
  receiver : Document
  entryPoint : Bool
  file : Document
deriving DecidableEq, Repr

/-- The slot that holds the result of a function. -/
def returnSlot : String := "return"

/-- What stands between a function's id and the rest of a key. -/
def keySeparator : String := "::"

def globalKey (name : String) : String := "<global>" ++ keySeparator ++ name

/-- The marker of the parameter with a given index. -/
def paramMarker (index : Nat) : String := "param:" ++ toString index

def receiverMarker : String := "receiver"

def globalMarker (name : String) : String := "global:" ++ name

/-- The global that a marker stands for. -/
def globalOfMarker? (marker : String) : Option String := Text.after? "global:" marker

/-- The index of the parameter that a marker stands for. -/
def paramOfMarker? (marker : String) : Option Nat := do
  let digits := (← Text.after? "param:" marker).toList
  if digits.isEmpty || !digits.all Char.isDigit then none
  else some (digits.foldl (fun n c => 10 * n + (c.toNat - 48)) 0)

def functionKey (function part : String) : String := function ++ keySeparator ++ part

namespace Function

def key (f : Function) (node : String) : String := functionKey f.id node

def paramKey (f : Function) (index : Nat) : String := functionKey f.id (paramMarker index)

def receiverKey (f : Function) : String := functionKey f.id receiverMarker

def node? (f : Function) (id : String) : Option Node := f.nodes.get? id

/-- The nodes from which control may pass to a node, once for every edge. -/
def predecessors (f : Function) (id : String) : List String :=
  f.nodes.entries.flatMap (fun (source, node) =>
    (node.succ.filter (· = id)).map (fun _ => source))

def returnNodes (f : Function) : List String :=
  (f.nodes.entries.filter (fun (_, node) => node.kind = .ret)).map Prod.fst

def callNodes (f : Function) : List (String × Node) :=
  f.nodes.entries.filter (fun (_, node) => node.kind = .call)

/-- Whether several edges meet at a node of the function. -/
def isMerge (f : Function) (id : String) : Bool :=
  f.nodes.contains id && (f.predecessors id).length > 1

def mergeNodes (f : Function) : List String := f.nodes.keys.filter f.isMerge

/-- The parameters with their indices. -/
def indexedParams (f : Function) : List (Nat × Param) :=
  (List.range f.params.length).zip f.params

def paramNames (f : Function) : List String := f.params.map Param.name

/-- The slot of the receiver, if the function has one. -/
def receiverSlot? (f : Function) : Option Slot := f.receiver.slot?

/-- Every slot that the function mentions. -/
def slots (f : Function) : OrderedSet Slot :=
  let signature := f.paramNames.map Key.text ++ f.receiverSlot?.toList
  .ofList (signature ++ f.nodes.values.flatMap (fun n => n.reads ++ n.targetSlot?.toList))

/-- Everything that the function mentions as a slot, as it was given. -/
def slotDocuments (f : Function) : List Document :=
  let present (d : Document) : List Document := if d.isTruthy then [d] else []
  f.paramNames.map .text ++ present f.receiver
    ++ f.nodes.values.flatMap (fun n => n.readDocuments ++ present n.target)

/-- The globals that the function mentions. -/
def globalsIn (f : Function) (globals : Names) : Names :=
  let slots := f.slots
  globals.filter (fun name => Key.text name ∈ slots)

/-- Whether every slot that the function mentions can be searched by. -/
def isSearchable (f : Function) : Bool :=
  f.receiver.isName && f.nodes.values.all Node.isSearchable

end Function

/-- All functions of a program. Those that cannot be read are kept as malformed, so that callers
still see them as known. -/
structure Program where
  functions : Table Function
  globals : Names
  malformed : Table Malformed
deriving DecidableEq, Repr

namespace Program

def functionIds (p : Program) : Names := .ofList (p.functions.keys ++ p.malformed.keys)

def nodeCount (p : Program) : Nat :=
  p.functions.values.foldl (fun n f => n + f.nodes.size) 0

/-- The function part of a key, the whole key if it has no separator. -/
def functionOf (key : String) : String :=
  match Text.splitLast? keySeparator key with
  | some (function, _) => function
  | none => key

/-- Splits a key into its function and the rest; without a separator the function is empty. -/
def splitKey (key : String) : String × String :=
  (Text.splitLast? keySeparator key).getD ("", key)

/-- The node that a key names. -/
def node? (p : Program) (key : String) : Option Node := do
  let (function, id) := splitKey key
  (← p.functions.get? function).node? id

/-- Whether a key names a node at which several edges meet. -/
def isMerge (p : Program) (key : String) : Bool :=
  let (function, id) := splitKey key
  match p.functions.get? function with
  | some f => f.isMerge id
  | none => false

end Program

end TaintFlow
