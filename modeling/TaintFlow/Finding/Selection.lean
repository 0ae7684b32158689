import TaintFlow.Finding.Basic

/-!
# Selecting findings

Selections keep the order in which findings are listed. A threshold never hides an insufficiently
neutralized flow from a known origin.
-/

namespace TaintFlow

/-- What findings can be asked for: a layer of the sink context, or an origin. -/
inductive Query where
  | context (c : Context)
  | origin (o : Origin)

namespace Query

/-- A query from a text: a context if the text names one, else an origin. -/
def ofText (s : String) : Result Query :=
  match Context.parse? s with
  | some c => .ok (.context c)
  | none => do return .origin (← Origin.ofDocument (.text s))

def admits (q : Query) (f : Finding) : Bool :=
  match q with
  | .context c => c ∈ f.sink.context.layers
  | .origin o => o ∈ f.label.origins

end Query

/-- The thresholds below which findings are dropped. The least confidence stands as it was given; one
that is not a number is a fault where a confidence is compared with it. -/
structure Threshold where
  severity : Option Severity
  confidence : Option Document

namespace Threshold

def isReached (least : Option Document) (confidence : Amount) : Result Bool :=
  match least with
  | some d => do return !confidence.isBelow (← d.amount)
  | none => .ok true

/-- Whether a finding is severe and confident enough. -/
def admits (t : Threshold) (f : Finding) : Result Bool :=
  if t.severity.all (fun s => s.rank ≤ f.severity.rank) then isReached t.confidence f.confidence
  else .ok false

/-- Whether a finding is kept. -/
def keeps (t : Threshold) (f : Finding) : Result Bool := do
  if f.classification = .insufficient then
    if (← f.origin) ≠ .unknownExternal then return true
  t.admits f

end Threshold

namespace Finding

def answering (q : Query) (fs : List Finding) : List Finding := sort (fs.filter q.admits)

/-- The findings that a document asks for. What is not a text names neither a context nor an origin. -/
def findingsFor (d : Document) (fs : List Finding) : Result (List Finding) :=
  match d with
  | .text s => do return answering (← Query.ofText s) fs
  | .list _ | .object _ => if fs.isEmpty then .ok [] else .error .wrongKind
  | _ => .ok []

def withClassification (c : Classification) (fs : List Finding) : List Finding :=
  sort (fs.filter (fun f => f.classification = c))

def above (t : Threshold) (fs : List Finding) : Result (List Finding) := do
  return sort (← fs.filterM t.keeps)

/-- The filters of the command line: every context must occur, any origin may match. -/
def select (t : Threshold) (contexts : List Context) (origins : List Origin)
    (fs : List Finding) : Result (List Finding) := do
  let fs ← above t fs
  let fs := contexts.foldl (fun fs c => answering (.context c) fs) fs
  if origins.isEmpty then return fs
  else return sort (fs.filter (fun f => f.label.origins.toList.any (· ∈ origins)))

def count (c : Classification) (fs : List Finding) : Nat :=
  (fs.filter (fun f => f.classification = c)).length

/-- A short notice of how many findings there are. -/
def describe (fs : List Finding) : String :=
  "FindingSet(" ++ toString fs.length ++ " findings)"

end Finding

end TaintFlow
