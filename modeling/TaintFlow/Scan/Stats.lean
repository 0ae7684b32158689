import TaintFlow.Collection.OrderedMap
import TaintFlow.Number.Amount

/-!
# The statistics of a scan

What a scan counts on its way. A scan is incomplete when the program has functions and all of them
failed.
-/

namespace TaintFlow

structure ScanStats where
  nodesAnalyzed : Nat := 0
  functionsTotal : Nat := 0
  functionsAnalyzed : Nat := 0
  summariesComputed : Nat := 0
  summariesReused : Nat := 0
  /-- Why each failed function failed. -/
  failedFunctions : NameMap String := ∅
  unknownEdges : Nat := 0
  unresolvedCalls : Nat := 0
  ruleConflicts : Nat := 0
  sinkSites : Nat := 0
  originNodes : Nat := 0
  pathsEnumerated : Nat := 0
  pathsCollapsed : Nat := 0
  pathStatesExplored : Nat := 0
  pathSearchesExhausted : Nat := 0
deriving Inhabited

namespace ScanStats

def isIncomplete (s : ScanStats) : Bool :=
  decide (0 < s.functionsTotal ∧ s.functionsTotal ≤ s.failedFunctions.size)

/-- The counts under their names. -/
def fields (s : ScanStats) : List (String × Document) :=
  [("nodes_analyzed", .ofNat s.nodesAnalyzed),
    ("functions_total", .ofNat s.functionsTotal),
    ("functions_analyzed", .ofNat s.functionsAnalyzed),
    ("summaries_computed", .ofNat s.summariesComputed),
    ("summaries_reused", .ofNat s.summariesReused),
    ("failed_functions",
      .object (s.failedFunctions.entries.map (fun (id, why) => (id, .text why)))),
    ("unknown_propagation_edges", .ofNat s.unknownEdges),
    ("unresolved_calls", .ofNat s.unresolvedCalls),
    ("rule_conflicts", .ofNat s.ruleConflicts),
    ("sink_sites", .ofNat s.sinkSites),
    ("origin_nodes", .ofNat s.originNodes),
    ("paths_enumerated", .ofNat s.pathsEnumerated),
    ("paths_collapsed", .ofNat s.pathsCollapsed),
    ("path_states_explored", .ofNat s.pathStatesExplored),
    ("path_searches_exhausted", .ofNat s.pathSearchesExhausted)]

end ScanStats

/-- Statistics as they stand in a report: the values under their names, and whether the scan was
incomplete. -/
structure ReportedStats where
  fields : List (String × Document)
  incomplete : Bool

namespace ReportedStats

def ofScan (s : ScanStats) : ReportedStats := ⟨s.fields, s.isIncomplete⟩

/-- The seconds that the parts of a scan took are no statistics, but may be stated as numbers. -/
def checkSeconds (d : Document) : Result Unit := do
  (← d.fieldsOf).forM (fun (_, seconds) => do let _ ← seconds.amount)

/-- Puts a value that is stated in the place of a count. -/
def put (counts : List (String × Document)) (entry : String × Document) :
    Result (List (String × Document)) :=
  if entry.1 = "component_seconds" then do
    checkSeconds entry.2
    return counts
  else if (counts.lookup entry.1).isSome then
    .ok (counts.map (fun (name, value) => (name, if name = entry.1 then entry.2 else value)))
  else .error .wrongKind

/-- Statistics that are stated in a document, zero where they are not. -/
def ofDocument (d : Document) : Result ReportedStats := do
  let stated ← match d with
    | .object fields => .ok fields
    | .null => .ok []
    | _ => .error .wrongKind
  let fields ← stated.foldlM put ({} : ScanStats).fields
  let failed ← ((fields.lookup "failed_functions").getD .null).fieldsOf
  let total ← ((fields.lookup "functions_total").getD .null).amount
  return ⟨fields, total.isAbove (.whole 0) && !(Amount.whole failed.length).isBelow total⟩

def toDocument (s : ReportedStats) : Document :=
  .object (s.fields ++ [("incomplete", .bool s.incomplete)])

end ReportedStats

end TaintFlow
