import TaintFlow.Flow.Spelling
import TaintFlow.Main
import TaintFlow.Proofs.Collection
import TaintFlow.Proofs.Result
import TaintFlow.Proofs.Number
import TaintFlow.Proofs.TaintSet
import TaintFlow.Proofs.Label
import TaintFlow.Proofs.TaintSet.Build
import TaintFlow.Proofs.State
import TaintFlow.Proofs.State.Join
import TaintFlow.Proofs.Flow.Wiring
import TaintFlow.Proofs.Flow.Path
import TaintFlow.Proofs.Flow.Observation
import TaintFlow.Proofs.Flow.Worklist
import TaintFlow.Proofs.Flow.Exact
import TaintFlow.Proofs.Summary.Exact
import TaintFlow.Proofs.CallGraph.Reach
import TaintFlow.Proofs.CallGraph.Search
import TaintFlow.Proofs.CallGraph.Components
import TaintFlow.Proofs.CallGraph.Layers
import TaintFlow.Proofs.CallGraph.Heights
import TaintFlow.Proofs.Flow.Callees
import TaintFlow.Proofs.Summary.Rounds
import TaintFlow.Proofs.Summary.Published
import TaintFlow.Proofs.Flow.Monotone
import TaintFlow.Proofs.Flow.Edges
import TaintFlow.Proofs.Summary.Converge
import TaintFlow.Proofs.Summary.Ready
import TaintFlow.Proofs.Flow.Core
import TaintFlow.Proofs.Program.Identity
import TaintFlow.Proofs.Summary.Reuse
import TaintFlow.Proofs.Summary.Failures
import TaintFlow.Proofs.Summary.Across
import TaintFlow.Proofs.Summary.Incremental
import TaintFlow.Proofs.Summary.Globals
import TaintFlow.Proofs.Concrete.Passing
import TaintFlow.Proofs.Concrete.Inputs
import TaintFlow.Proofs.Concrete.Worklist
import TaintFlow.Proofs.Concrete.Solution
import TaintFlow.Proofs.Concrete.Coverage
import TaintFlow.Proofs.Scan.Dedup
import TaintFlow.Proofs.Scan.Sites
import TaintFlow.Proofs.Scan.Flows
import TaintFlow.Proofs.Flow.Faults
import TaintFlow.Proofs.Flow.Tapped
import TaintFlow.Proofs.Flow.Forwarding
import TaintFlow.Proofs.Summary.Forwarding
import TaintFlow.Proofs.Summary.Order
import TaintFlow.Proofs.Summary.Spread
import TaintFlow.Proofs.Concrete.Spread
import TaintFlow.Proofs.Summary.Faults
import TaintFlow.Proofs.Concrete.Faults
import TaintFlow.Proofs.Scan.Settings
import TaintFlow.Proofs.Scan.Checks
import TaintFlow.Proofs.Scan.Outcome
import TaintFlow.Proofs.Scan.Sources
import TaintFlow.Proofs.Scan.Reorder
import TaintFlow.Proofs.Path.Distance
import TaintFlow.Proofs.Path.Route
import TaintFlow.Proofs.Path.Search
import TaintFlow.Proofs.Path.Distinct
import TaintFlow.Proofs.Flow.Lineage
import TaintFlow.Proofs.Path.Hops
import TaintFlow.Proofs.Flow.Degraded
import TaintFlow.Proofs.Neutralization
import TaintFlow.Proofs.Rules.Registration
import TaintFlow.Proofs.Rules.Conflicts
import TaintFlow.Proofs.Rules.Skipping
import TaintFlow.Proofs.Program.Declared
import TaintFlow.Proofs.Program.Isolation
import TaintFlow.Proofs.Program.RoundTrip
import TaintFlow.Proofs.Program.Keys
import TaintFlow.Proofs.Summary.Budget
import TaintFlow.Proofs.Document.Written
import TaintFlow.Proofs.Document.Canonical
import TaintFlow.Proofs.Program.Canonical
import TaintFlow.Proofs.Flow.Unwritten
import TaintFlow.Proofs.Summary.Throughout
import TaintFlow.Proofs.Concrete.Unwritten
import TaintFlow.Proofs.Document.Read
import TaintFlow.Proofs.Settings
import TaintFlow.Proofs.Finding.Standing
import TaintFlow.Proofs.Finding.Collapse
import TaintFlow.Proofs.Sink.Placement
import TaintFlow.Proofs.Flow.Occurring
import TaintFlow.Proofs.Flow.Termination
