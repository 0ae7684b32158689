import TaintFlow.Fidelity.Check
import TaintFlow.Scan.Flow
import TaintFlow.Scan.Stats
import TaintFlow.Settings

/-!
# Scanning a program

A scan summarises every function, analyses the program with concrete taint, finds the sink sites and
the flows into them, judges and scores every path, and reports one finding for each origin, site and
verdict. Where results could be lost on the way a fidelity check is made.
-/

namespace TaintFlow

/-- The findings of a scan in the order in which they are listed. The summaries can be passed to a
later scan of a changed program. -/
structure ScanResult where
  findings : List Finding
  stats : ScanStats
  summaries : NameMap Summary
  notices : List Notice := []

namespace ResolveLimits

/-- The limits that a configuration sets. The number of workers is checked although it changes
nothing. -/
def ofConfig (config : Document) : Result ResolveLimits := do
  let maxVisits ← limitOf config "max_visits_per_node" 200
  let maxRounds ← limitOf config "max_scc_iterations" 20
  let _ ← limitOf config "workers" 4
  return ⟨maxVisits, maxRounds⟩

end ResolveLimits

namespace ConcreteLimits

def ofConfig (config : Document) : Result ConcreteLimits := do
  let maxVisits ← limitOf config "max_visits_per_node" 200
  let maxRounds ← limitOf config "max_worklist_rounds" 50
  return ⟨maxVisits, (max 1 maxRounds).toNat⟩

end ConcreteLimits

namespace SearchLimits

def ofConfig (config : Document) : Result SearchLimits := do
  return ⟨← limitOf config "max_path_depth" 40, ← limitOf config "max_paths_per_sink" 100,
    ← limitOf config "max_path_states" 20000⟩

end SearchLimits

/-- What a scan works on. -/
structure Scan where
  program : Program
  rules : Registry
  /-- Failed fidelity checks stop the scan. -/
  strict : Bool

namespace Scan

/-- The graph of all recorded flows. -/
def flowGraph (analyses : Table Analysis) : FlowGraph :=
  analyses.values.foldl (fun g a =>
    ⟨g.edges ∪ a.seen.edges, g.origins.override a.seen.origins⟩) ⟨∅, ∅⟩

def unresolvedCalls (analyses : Table Analysis) : Names :=
  analyses.values.foldl (fun found a => found ∪ a.seen.unresolved) ∅

/-- Whether a sink call has a checked argument that is not a literal. -/
def hasCheckedArg (rules : Registry) (n : Node) : Bool :=
  match rules.sink? n.api with
  | some rule => n.indexedArgs.any (fun (i, slot) => rule.checks i && slot.isSome)
  | none => false

/-- The sink calls with a checked argument that the analyses met. -/
def observedSinks (s : Scan) (analyses : Table Analysis) : Names :=
  .ofList (analyses.entries.flatMap (fun (id, a) =>
    a.seen.sinks.entries.filterMap (fun (key, seen) =>
      match (s.program.functions.get? id).bind (fun f => f.node? seen.node) with
      | some n => if hasCheckedArg s.rules n then some key else none
      | none => none)))

/-- The entry functions and every function with a usable summary that an analysed function calls. -/
def expectedFunctions (pass : ConcretePass) (analyses : Table Analysis) : Names :=
  .ofList (pass.entries ++ analyses.values.flatMap (fun a =>
    (a.seen.calls.values.map CallObservation.callee).filter pass.isUsable))

/-- The check that every sink call that was met has a site. -/
def discoveryOutcome (s : Scan) (sources : List SourceNode) (sites : List SinkSite)
    (analyses : Table Analysis) : Fidelity.Outcome :=
  let sinkNodes : Names := .ofList (sites.map SinkSite.node)
  let observed := s.observedSinks analyses
  Fidelity.checkDiscovery sources.isEmpty sites.isEmpty (observed.diff sinkNodes).toList
    (sinkNodes.diff observed).size

/-- The check that every function that was to be reached is accounted for. -/
def analysisOutcome (pass : ConcretePass) (degraded : Nat) (state : ConcreteState) :
    Fidelity.Outcome :=
  let expected := expectedFunctions pass state.analyses
  let missing := (expected.diff (.ofList state.analyses.keys)).diff (.ofList state.failures.keys)
  Fidelity.checkAnalysis expected.size missing.toList (.ofNat degraded) state.failures.size

/-- The check that no path is lost by deduplication. -/
def dedupOutcome (candidates findings : List Finding) : Fidelity.Outcome :=
  Fidelity.checkDedup (.ofNat candidates.length) (.ofNat findings.length)
    (.ofNat (findings.foldl (fun n f => n + f.collapsed) 0)) (some (.ofNat findings.length))

/-- What is told about a check that has passed. -/
def checkNotices (o : Fidelity.Outcome) : List Notice :=
  if o.failed then [.error (Fault.unfaithfulMessage o)]
  else if o.warnings.isEmpty then []
  else [.warning ("Fidelity warnings at " ++ o.stage.asText ++ ": " ++ (Document.ofTexts o.warnings).shown)]

def summaryNotice (findings candidates : Nat) (stats : ScanStats) : Notice :=
  .info ("Scan complete: " ++ toString findings ++ " finding(s) from " ++ toString candidates
    ++ " path(s), " ++ toString stats.functionsAnalyzed ++ "/" ++ toString stats.functionsTotal
    ++ " functions, " ++ toString stats.failedFunctions.size ++ " degraded")

/-- What the passes over the functions come to: the published summaries, and the state in which the
concrete pass ends. -/
structure Propagation where
  resolution : Resolution
  pass : ConcretePass
  state : ConcreteState

/-- Summarises every function and analyses the program with concrete taint. -/
def propagate (s : Scan) (config : Document) (allowance : Allowance) (previous : NameMap Summary) :
    Result Propagation := do
  let resolver := Resolver.ofProgram s.program s.rules (← ResolveLimits.ofConfig config) previous
  let (resolution, allowance) ← resolver.resolve allowance
  let pass : ConcretePass :=
    ⟨s.program, s.rules, resolution.summaries, resolver.graph, ← ConcreteLimits.ofConfig config⟩
  return ⟨resolution, pass, ← pass.run allowance⟩

/-- Finds the flows in what was propagated, judges them and checks that none got lost. -/
def report (s : Scan) (config : Document) (notices : List Notice) (found : Propagation) :
    Result ScanResult := do
  let ⟨resolution, pass, state⟩ := found
  let analyses := state.analyses
  let graph := flowGraph analyses
  let sites ← s.program.sinkSites s.rules analyses
  let sources := SourceNode.all analyses
  let discovery ← Fidelity.enforce s.strict (s.discoveryOutcome sources sites analyses)
  let analysis ← Fidelity.enforce s.strict (analysisOutcome pass resolution.failures.size state)
  let enumeration := Flow.enumerate graph (← SearchLimits.ofConfig config) analyses sites
  let candidates ←
    Flow.candidates s.program s.rules (← Scorer.ofConfig config) enumeration.flows
  let findings ← Finding.deduplicate candidates
  let dedup ← Fidelity.enforce s.strict (dedupOutcome candidates findings)
  let stats : ScanStats := {
    nodesAnalyzed := (analyses.values.map Analysis.nodesAnalyzed).foldl (· + ·) 0
    functionsTotal := s.program.functionIds.size
    functionsAnalyzed := analyses.size
    summariesComputed := (resolution.recomputed.diff (.ofList resolution.failures.keys)).size
    summariesReused := resolution.reused.size
    failedFunctions := resolution.failures.override state.failures
    unknownEdges := (graph.edges.toList.filter FlowEdge.isUnknown).length
    unresolvedCalls := (unresolvedCalls analyses).size
    ruleConflicts := s.rules.conflicts.length
    sinkSites := sites.length
    originNodes := sources.length
    pathsEnumerated := candidates.length
    pathsCollapsed := candidates.length - findings.length
    pathStatesExplored := enumeration.states
    pathSearchesExhausted := enumeration.exhausted }
  return {
    findings := Finding.sort findings
    stats := stats
    summaries := resolution.summaries
    notices := notices ++ checkNotices discovery ++ checkNotices analysis ++ checkNotices dedup
      ++ [summaryNotice findings.length candidates.length stats] }

/-- Scans a program. The configuration is merged over the built-in settings, and the summaries of an
earlier scan are used again where they still hold. -/
def run (s : Scan) (overrides : Document) (allowance : Allowance) (previous : NameMap Summary) :
    Result ScanResult := do
  let (settings, notices) ← Settings.merge overrides
  let config := settings.toDocument
  s.report config notices (← s.propagate config allowance previous)

end Scan

end TaintFlow
