import TaintFlow.Document.Set
import TaintFlow.Fidelity.Check

/-!
# Manifests and receipts

A stage announces what it will produce in a manifest and confirms what it produced in a receipt, both
documents. Reconciling them is the stage's check; a stage without a check passes. Counts and names
may be given in any notation and are compared by value.
-/

namespace TaintFlow.Fidelity

/-- The members of a document as a set. -/
def setOf (d : Document) : Result DocumentSet := do DocumentSet.ofList (← d.members)

/-- The members of a document in increasing order, each once. -/
def inOrder (d : Document) : Result Document := do return .list (← (← setOf d).sorted)

def stageField (stage : String) : String × Document := ("_stage", .text stage)

/-- The count and the fingerprint of a list. -/
def manifest (items : Document) : Result Document := do
  let items ← items.members
  return .object [("count", .ofNat items.length), ("fingerprint", .text (fingerprint items))]

/-- The node of a sink site. -/
def siteNode (d : Document) : Result Document :=
  match d with
  | .object fields =>
    match fields.lookup "node" with
    | some node => .ok node
    | none => .error (.missing "node")
  | _ => .error .wrongKind

def discoveryManifest (sources sinks : Document) : Result Document := do
  let sourceToken ← manifest sources
  let sinkToken ← manifest sinks
  let nodes ← inOrder (.list (← (← sinks.members).mapM siteNode))
  return .object [("sources", sourceToken), ("sinks", sinkToken), ("sink_nodes", nodes),
    stageField "discovery"]

def discoveryReceipt (observed : Document) : Result Document := do
  return .object [("observed_sinks", ← inOrder observed), stageField "discovery"]

def analysisManifest (expected degraded : Document) : Result Document := do
  return .object [("functions_expected", ← inOrder expected), ("summaries_degraded", degraded),
    stageField "analysis"]

def analysisReceipt (analyzed failed : Document) : Result Document := do
  return .object [("functions_analyzed", ← inOrder analyzed), ("functions_failed", ← inOrder failed),
    stageField "analysis"]

/-- The amount itself, but at least one. -/
def atLeastOne (a : Amount) : Amount := if (Amount.whole 1).isAbove a then .whole 1 else a

def dedupManifest (pre post : Document) : Result Document := do
  let before ← pre.amount
  let removed ← before.minus (← post.amount)
  let ratio ← removed.quotient (atLeastOne before)
  return .object [("pre_dedup_count", pre), ("post_dedup_count", post),
    ("removed_count", removed.toDocument), ("removal_ratio", .real ratio), stageField "dedup"]

def dedupReceipt (collapsed : Document) : Result Document := do
  let counts ← collapsed.members
  let total ← counts.foldlM (fun total count => do total.plus (← count.amount)) (Amount.whole 0)
  return .object [("collapsed_total", total.toDocument), ("findings", .ofNat counts.length),
    stageField "dedup"]

def outputReceipt (findings bytes : Document) : Document :=
  .object [("json_count", findings), ("json_bytes", bytes), stageField "json_output"]

/-- A count of a manifest or receipt, zero when it is absent. -/
def countField (d : Document) (name : String) : Result Document := do
  return (← d.get? name).getD (.whole 0)

def setField (d : Document) (name : String) : Result DocumentSet := do
  setOf ((← d.get? name).getD (.list []))

/-- Whether a section of a manifest counts nothing. -/
def countsNothing (manifest : Document) (part : String) : Result Bool := do
  return (← countField ((← manifest.get? part).getD (.object [])) "count").equals (.whole 0)

def discoveryOutcome (manifest receipt : Document) : Result Outcome := do
  let noSources ← countsNothing manifest "sources"
  let noSinks ← countsNothing manifest "sinks"
  let sinkNodes ← setField manifest "sink_nodes"
  let observed ← setField receipt "observed_sinks"
  return checkDiscovery noSources noSinks (← (observed.diff sinkNodes).names)
    (sinkNodes.diff observed).size

def analysisOutcome (manifest receipt : Document) : Result Outcome := do
  let expected ← setField manifest "functions_expected"
  let analyzed ← setField receipt "functions_analyzed"
  let failed ← setField receipt "functions_failed"
  let missing ← ((expected.diff analyzed).diff failed).names
  return checkAnalysis expected.size missing (← countField manifest "summaries_degraded") failed.size

def dedupOutcome (manifest receipt : Document) : Result Outcome := do
  return checkDedup (← countField manifest "pre_dedup_count")
    (← countField manifest "post_dedup_count") (← countField receipt "collapsed_total")
    (← receipt.get? "findings")

def outputOutcome (manifest receipt : Document) : Result Outcome := do
  let expected ← countField manifest "findings_to_write"
  let written ← countField receipt "json_count"
  let lost := (← expected.amount).isAbove (.whole 0) && written.equals (.whole 0)
  if lost || expected.equals written then return checkOutput expected written lost none
  else
    let difference ← (← expected.amount).minus (← written.amount)
    return checkOutput expected written lost (some (← difference.toDocument.showable))

/-- The outcome of a stage's check. -/
def outcomeOf (manifest receipt stage : Document) : Result Outcome :=
  match stage with
  | .text "discovery" => discoveryOutcome manifest receipt
  | .text "analysis" => analysisOutcome manifest receipt
  | .text "dedup" => dedupOutcome manifest receipt
  | .text "json_output" => outputOutcome manifest receipt
  | other => .ok ⟨other, [], []⟩

/-- Compares a manifest with a receipt. -/
def reconcile (manifest receipt stage : Document) (strict : Bool) : Result Outcome := do
  enforce strict (← outcomeOf manifest receipt stage)

/-- Whether failed checks stop a run: unless the environment says `0`. -/
def isStrict (setting : Option String) : Bool := setting ≠ some "0"

end TaintFlow.Fidelity
