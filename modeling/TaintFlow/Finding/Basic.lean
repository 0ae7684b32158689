import TaintFlow.Collection.Insertion
import TaintFlow.Neutralization
import TaintFlow.Path.Search
import TaintFlow.Score
import TaintFlow.Sink.Site

/-!
# Findings

A finding is a reported flow from an origin into a sink argument. Findings are listed by falling
severity and confidence, then by sink and path; after deduplication one finding stands for all paths
with its origin, sink argument and verdict.
-/

namespace TaintFlow

structure Finding where
  label : Label
  sink : SinkSite
  path : List Atom
  classification : Classification
  severity : Severity
  confidence : Amount
  steps : List Step
  /-- The positions of the path that were entered through unknown code. -/
  unknownHops : List Document
  reason : String
  /-- How many paths the finding stands for. -/
  collapsed : Nat
  truncated : Bool
  /-- The other paths that the finding stands for. -/
  related : List (List Atom)

namespace Finding

/-- The origin under which a finding is reported. -/
def origin (f : Finding) : Result Origin :=
  match f.label.primaryOrigin? with
  | some origin => .ok origin
  | none => .error .noOrigin

/-- What the sink is vulnerable to, by its context and the name of the function. -/
def vulnerability (f : Finding) : Result String :=
  match f.sink.api with
  | .text api => .ok (f.sink.context.vulnerability api)
  | other => if other.isTruthy then .error .notAnObject else .ok (f.sink.context.vulnerability "")

/-- What findings share that are reported as one. -/
structure Subject where
  origin : Origin
  node : String
  argIndex : Key
  classification : Classification
deriving DecidableEq, Repr

def subject (f : Finding) : Result Subject := do
  return ⟨← f.origin, f.sink.node, ← f.sink.argIndex.key, f.classification⟩

/-- The order by falling confidence, and `rest` among equals. Nothing is known of a confidence that
cannot be compared. -/
def orderByConfidence (a b : Finding) (rest : Ordering) : Option Ordering :=
  (b.confidence.compare? a.confidence).map (fun order => order.then rest)

/-- The order in which findings are listed. -/
def order? (a b : Finding) : Option Ordering :=
  match compare b.severity.rank a.severity.rank with
  | .eq => orderByConfidence a b ((compare a.sink.node b.sink.node).then
      ((compare a.sink.argIndex b.sink.argIndex).then (compare a.path b.path)))
  | other => some other

/-- The order in which the findings of a group compete to stand for it. -/
def groupOrder? (a b : Finding) : Option Ordering :=
  orderByConfidence a b ((compare a.path.length b.path.length).then (compare a.path b.path))

def sort (fs : List Finding) : List Finding := Insertion.sort (fun a b => a.order? b = some .lt) fs

/-- Whether two findings of one severity, confidence and sink have places in the list. -/
def isListable (a b : Finding) : Bool :=
  a.severity.rank ≠ b.severity.rank || !a.confidence.equals b.confidence
    || a.sink.node ≠ b.sink.node
    || Atom.areComparable (a.sink.argIndex :: a.path) (b.sink.argIndex :: b.path)

/-- Whether two findings that may stand for a group can compete. -/
def competes (a b : Finding) : Bool :=
  !a.confidence.equals b.confidence || a.path.length ≠ b.path.length
    || Atom.areComparable a.path b.path

/-- Whether a relation holds between all members of a list. -/
def allPairs (related : Finding → Finding → Bool) : List Finding → Bool
  | [] => true
  | f :: fs => fs.all (related f) && allPairs related fs

/-- Findings in the order in which they are listed, if they have one. -/
def list (fs : List Finding) : Result (List Finding) :=
  if allPairs isListable fs then .ok (sort fs) else .error .wrongKind

/-- The path with each node marked that was entered through unknown code. -/
def pathDocument (f : Finding) : Result Document := do
  let hops ← f.unknownHops.mapM Document.key
  let indexed := (List.range f.path.length).zip f.path
  return .list (indexed.map (fun (i, node) =>
    .object [("node", node.toDocument), ("unknown", .bool (decide (Key.whole i ∈ hops)))]))

def toDocument (f : Finding) : Result Document := do
  let path ← f.pathDocument
  return .object ([
    ("vulnerability_type", .text (← f.vulnerability)),
    ("classification", .text f.classification.name),
    ("severity", .text f.severity.name),
    ("confidence", f.confidence.toDocument),
    ("confidence_level", .text (Confidence.ofScore f.confidence).name),
    ("reason", .text f.reason),
    ("source", .object [
      ("origins", .ofTexts (f.label.origins.toList.map Origin.name)),
      ("node", (f.path.head?.map Atom.toDocument).getD .null),
      ("context", .ofText? (f.label.context.map Context.name))]),
    ("sink", f.sink.toDocument),
    ("path", path),
    ("path_length", .ofNat f.path.length),
    ("neutralization", .list (f.steps.map Step.toDocument)),
    ("collapsed_count", .ofNat f.collapsed),
    ("unknown_propagation", .bool (!f.unknownHops.isEmpty)),
    ("truncated", .bool f.truncated)]
    ++ (if f.related.isEmpty then []
      else [("related_paths",
        .list (f.related.map (fun p => .list (p.map Atom.toDocument))))]))

/-- The finding that a document states, standing for its own path only. -/
def ofDocument (d : Document) : Result Finding := do
  return {
    label := ← Label.ofDocument (← d.need "label")
    sink := ← SinkSite.ofDocument (← d.need "sink")
    path := (← (← d.need "path").members).map Document.atom
    classification := ← Classification.ofDocument (← d.need "classification")
    severity := ← Severity.ofDocument (← d.need "severity")
    confidence := ← (← d.need "confidence").amount
    steps := ← (← d.itemsOf "steps").mapM Step.ofDocument
    unknownHops := ← d.itemsOf "unknown_hops"
    reason := ((d.field? "reason").map Document.asText).getD ""
    collapsed := 1
    truncated := ((d.field? "truncated").map Document.isTruthy).getD false
    related := [] }

/-- Puts a finding into its group; the groups stand in the order of their first findings. -/
def group (groups : List (Subject × List Finding)) (entry : Subject × Finding) :
    List (Subject × List Finding) :=
  match groups with
  | [] => [(entry.1, [entry.2])]
  | (subject, fs) :: rest =>
    if subject = entry.1 then (subject, fs ++ [entry.2]) :: rest
    else (subject, fs) :: group rest entry

/-- The finding that stands for a group, with the paths of the others. -/
def collapse (fs : List Finding) : Option Finding :=
  match Insertion.sort (fun a b => a.groupOrder? b = some .lt) fs with
  | [] => none
  | best :: others =>
    some { best with collapsed := fs.length, related := others.map Finding.path }

/-- One finding for each origin, sink argument and verdict. -/
def deduplicate (fs : List Finding) : Result (List Finding) := do
  let entries ← fs.mapM (fun f => do return (← f.subject, f))
  return (entries.foldl group []).filterMap (fun (_, fs) => collapse fs)

/-- One finding for each origin, sink argument and verdict, if those of a group can compete. -/
def deduplicate? (fs : List Finding) : Result (List Finding) := do
  let entries ← fs.mapM (fun f => do return (← f.subject, f))
  if (entries.foldl group []).all (fun (_, fs) => allPairs competes fs) then deduplicate fs
  else .error .wrongKind

end Finding

end TaintFlow
