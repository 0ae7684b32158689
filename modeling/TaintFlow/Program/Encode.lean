import TaintFlow.Digest.Sha256
import TaintFlow.Document.Coerce
import TaintFlow.Document.Text
import TaintFlow.Program.Basic

/-!
# Programs as documents

Fields that hold their default are left out. The hash of a function's canonical text tells whether
a summary of the function can be used again.
-/

namespace TaintFlow

/-- A field that is written only under a condition. -/
def fieldIf (present : Bool) (name : String) (value : Document) : List (String × Document) :=
  if present then [(name, value)] else []

/-- A text field that is written when it is present. -/
def textIfPresent (name : String) : Option String → List (String × Document)
  | some value => [(name, .text value)]
  | none => []

/-- A field that is written unless it is null. -/
def unlessNull (name : String) (value : Document) : List (String × Document) :=
  fieldIf (!value.isNull) name value

/-- A field that is written when it counts as present. -/
def ifTruthy (name : String) (value : Document) : List (String × Document) :=
  fieldIf value.isTruthy name value

def contextsDocument (contexts : List Context) : Document := .ofTexts (contexts.map Context.name)

namespace Node

def toDocument (id : String) (n : Node) : Document :=
  .object (
    [("id", .text id), ("kind", .text n.kind.name), ("succ", .ofTexts n.succ)]
    ++ unlessNull "target" n.target
    ++ fieldIf (!n.operands.isEmpty) "operands" (.ofTexts n.operands)
    ++ fieldIf (!n.embeds.isEmpty) "embeds"
      (.object (n.embeds.entries.map (fun (slot, cs) => (slot, contextsDocument cs))))
    ++ ifTruthy "operator" n.operator
    ++ unlessNull "api" n.api
    ++ unlessNull "callee" n.callee
    ++ fieldIf n.dynamic "dynamic" (.bool true)
    ++ fieldIf (!n.args.isEmpty) "args" (.list (n.args.map .ofText?))
    ++ unlessNull "receiver" n.receiver
    ++ fieldIf (!n.enclosing.isEmpty) "enclosing"
      (.object (n.enclosing.entries.map (fun (i, cs) => (toString i, contextsDocument cs))))
    ++ fieldIf (n.line ≠ 0) "line" (.whole n.line)
    ++ ifTruthy "file" n.file)

end Node

def Param.toDocument (p : Param) : Document :=
  .object (
    [("name", .text p.name)]
    ++ textIfPresent "origin" (p.origin.map Origin.name)
    ++ fieldIf p.out "out" (.bool true)
    ++ textIfPresent "context" (p.context.map Context.name))

namespace Function

def toDocument (f : Function) : Document :=
  .object (
    [("id", .text f.id), ("entry", .text f.entry),
      ("params", .list (f.params.map Param.toDocument)),
      ("nodes", .list (f.nodes.entries.map (fun (id, node) => node.toDocument id)))]
    ++ ifTruthy "receiver" f.receiver
    ++ fieldIf f.entryPoint "entry_point" (.bool true)
    ++ ifTruthy "file" f.file)

def contentHash (f : Function) : String := Sha256.hex f.toDocument.canonical

end Function

def Program.toDocument (p : Program) : Document :=
  .object [("globals", .ofTexts p.globals.toList),
    ("functions", .list (p.functions.values.map Function.toDocument))]

end TaintFlow
