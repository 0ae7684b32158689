import TaintFlow.Concrete
import TaintFlow.Sink.Placement

/-!
# Sink sites and source nodes

Each checked argument of a sink call that is not a literal is a site, with the context of the
argument. Source nodes are the keys at which taint originates.
-/

namespace TaintFlow

structure SinkSite where
  node : String
  function : String
  api : Document
  argIndex : Atom
  context : Composite
  slot : Option Slot
  line : Document
  file : Document
deriving DecidableEq, Repr

namespace SinkSite

def toDocument (s : SinkSite) : Document :=
  .object [
    ("node", .text s.node),
    ("function", .text s.function),
    ("api", s.api),
    ("arg_index", s.argIndex.toDocument),
    ("context", .ofTexts s.context.names),
    ("file", s.file),
    ("line", s.line)]

/-- The site that a document states. Unless it says otherwise, the function is the part of the node
before its first pair of colons. -/
def ofDocument (d : Document) : Result SinkSite := do
  let node := (← d.need "node").asText
  let function := ((Text.splitFirst? "::" node).map Prod.fst).getD node
  return {
    node := node
    function := ((d.field? "function").map Document.asText).getD function
    api := (d.field? "api").getD (.text "sink")
    argIndex := ((d.field? "arg_index").getD (.whole 0)).atom
    context := ← Composite.ofDocument? (d.field? "context")
    slot := (d.given? "slot").bind Document.key?
    line := (d.field? "line").getD (.whole 0)
    file := (d.field? "file").getD (.text "") }

/-- The context of a sink argument with the contexts around it; a rule has at least one layer. -/
def contextOf (f : Function) (k : Placement.Knowledge) (rule : SinkRule) (id : String)
    (around : List Context) (slot : Option String) : Option Composite :=
  Composite.ofOutermost? (Placement.layers f k rule id around slot)

/-- The site of one argument, if the argument is checked and not a literal. -/
def ofArg? (f : Function) (k : Placement.Knowledge) (rule : SinkRule) (id : String) (n : Node)
    (index : Nat) (slot : Option String) : Option SinkSite :=
  match slot, contextOf f k rule id (n.enclosing.getD index []) slot with
  | some _, some context =>
    if rule.checks index then
      some ⟨f.key id, f.id, n.api, .whole index, context, slot.map .text, .whole n.line,
        if n.file.isTruthy then n.file else f.file⟩
    else none
  | _, _ => none

/-- The sites of a function. -/
def ofFunction (rules : Registry) (f : Function) (a : Analysis) : List SinkSite :=
  let k : Placement.Knowledge := ⟨a.seen.reaching, some a.seen.tainted⟩
  f.callNodes.flatMap (fun (id, n) =>
    match rules.sink? n.api with
    | none => []
    | some rule => n.indexedArgs.filterMap (fun (i, slot) => ofArg? f k rule id n i slot))

end SinkSite

/-- The analyses of functions of the program, in increasing order of their ids. -/
def Program.analyzed (p : Program) (analyses : Table Analysis) : List (Function × Analysis) :=
  analyses.sorted.filterMap (fun (id, a) => (p.functions.get? id).map (fun f => (f, a)))

/-- The sink sites of all analysed functions, if every call of theirs can be looked up in the
rules. -/
def Program.sinkSites (p : Program) (rules : Registry) (analyses : Table Analysis) :
    Result (List SinkSite) :=
  let analyzed := p.analyzed analyses
  if analyzed.all (fun (f, _) => f.callNodes.all (fun (_, n) => n.api.isName)) then
    .ok (analyzed.flatMap (fun (f, a) => SinkSite.ofFunction rules f a))
  else .error .wrongKind

structure SourceNode where
  node : String
  function : String
  origins : OrderedSet Origin
deriving DecidableEq, Repr

namespace SourceNode

def toDocument (s : SourceNode) : Document :=
  .object [("node", .text s.node), ("function", .text s.function),
    ("origins", .ofTexts (s.origins.toList.map Origin.name))]

/-- The keys at which taint originates, function by function. -/
def all (analyses : Table Analysis) : List SourceNode :=
  analyses.sorted.flatMap (fun (id, a) =>
    a.seen.origins.entries.map (fun (key, origins) => ⟨key, id, origins⟩))

end SourceNode

end TaintFlow
