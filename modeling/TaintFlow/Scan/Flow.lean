import TaintFlow.Finding.Basic
import TaintFlow.Sink.Site

/-!
# Flows into sinks

A flow is one origin that reaches one sink argument, with the paths it takes. Each path becomes a
candidate finding; a flow without an enumerated path is reported by the way that its label took.
-/

namespace TaintFlow

/-- An origin that reaches a sink argument. -/
structure Flow where
  site : SinkSite
  label : Label
  paths : List FlowPath

namespace Flow

/-- The labels of an argument one by one, each origin apart. -/
def singles (taint : TaintSet) : List (Origin × Label) :=
  taint.concrete.sorted.flatMap (fun l =>
    l.origins.toList.map (fun origin =>
      (origin, { l with origins := .singleton origin, symbols := ∅ })))

/-- Keeps the label with the shorter way; of equally long ones, the first. -/
def keepShorter (kept : OrderedMap Origin Label) (entry : Origin × Label) :
    OrderedMap Origin Label :=
  match kept.get? entry.1 with
  | none => kept.set entry.1 entry.2
  | some current =>
    if entry.2.provenance.length < current.provenance.length then kept.set entry.1 entry.2
    else kept

/-- A label for each origin of an argument. -/
def labelsByOrigin (taint : TaintSet) : OrderedMap Origin Label :=
  (singles taint).foldl keepShorter ∅

/-- The taint that was observed at a site. -/
def observed? (analyses : Table Analysis) (site : SinkSite) : Option TaintSet := do
  let analysis ← analyses.get? site.function
  let seen ← analysis.seen.sinks.get? site.node
  match site.argIndex with
  | .whole index => seen.args[index.toNat]?
  | _ => none

/-- The flows into all sites, with the number of states that were searched and the number of
searches that were given up. -/
structure Enumeration where
  flows : List Flow
  states : Nat
  exhausted : Nat

/-- Adds the flow of one origin into one site. The distances are those of the graph. -/
def enumerateOne (g : FlowGraph) (distances : OrderedMap Origin (NameMap Nat))
    (limits : SearchLimits) (site : SinkSite) (e : Enumeration) (entry : Origin × Label) :
    Enumeration :=
  let search : PathSearch := ⟨g, limits, entry.1, distances.getD entry.1 ∅⟩
  let found := search.run site.node site.slot
  let paths := if found.paths.isEmpty then [.ofProvenance entry.2 site.node] else found.paths
  ⟨e.flows ++ [⟨site, entry.2, paths⟩], e.states + found.states,
    e.exhausted + (if found.exhausted then 1 else 0)⟩

/-- The flows into all sites, site by site and origin by origin. -/
def enumerate (g : FlowGraph) (limits : SearchLimits) (analyses : Table Analysis)
    (sites : List SinkSite) : Enumeration :=
  let distances := g.distanceTable
  sites.foldl (fun e site =>
    match observed? analyses site with
    | none => e
    | some taint => (labelsByOrigin taint).entries.foldl (enumerateOne g distances limits site) e)
    ⟨[], 0, 0⟩

/-- The candidate finding of one path. -/
def candidate (p : Program) (rules : Registry) (scorer : Scorer) (f : Flow) (path : FlowPath) :
    Result Finding := do
  let keys := path.nodes.map (fun node => node.toDocument.asText)
  let steps := Step.onPath p rules keys
  let verdict := Verdict.judge rules.requiresCanonicalization steps f.site.context f.label
  let score ← scorer.score {
    unknownHops := .ofNat path.unknownHops.length
    pathLength := .ofNat path.nodes.length
    mergeCount := .ofNat (keys.filter p.isMerge).length
    corroborating := .whole ((f.paths.length : Int) - 1) }
  return {
    label := f.label
    sink := f.site
    path := path.nodes
    classification := verdict.classification
    severity := f.site.context.severity verdict.classification
    confidence := .real score
    steps := steps
    unknownHops := path.unknownHops.map .ofNat
    reason := verdict.reason
    collapsed := 1
    truncated := path.truncated
    related := [] }

/-- The candidate findings of all paths. -/
def candidates (p : Program) (rules : Registry) (scorer : Scorer) (flows : List Flow) :
    Result (List Finding) := do
  let found ← flows.mapM (fun f => f.paths.mapM (f.candidate p rules scorer))
  return found.flatten

end Flow

end TaintFlow
