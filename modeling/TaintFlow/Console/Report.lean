import TaintFlow.Console
import TaintFlow.Report

/-!
# Reports on the terminal

A scan is shown as a line of statistics, the functions that failed, a table of findings and a panel
with the status; a rule database as a table of counts with the conflicts.
-/

namespace TaintFlow

namespace Console

def findingColumns : List Column :=
  [⟨"#", true⟩, ⟨"Severity", false⟩, ⟨"Verdict", false⟩, ⟨"Type", false⟩, ⟨"Origin", false⟩,
    ⟨"Sink", false⟩, ⟨"Context", false⟩, ⟨"Conf.", true⟩, ⟨"Paths", true⟩]

/-- Where a sink is: its file and line, or its key if the file is not known. -/
def place (s : SinkSite) : String :=
  if s.file.isTruthy then s.file.asText ++ ":" ++ s.line.asText else s.node

def findingRow (entry : Nat × Finding) : List String :=
  let (i, f) := entry
  [toString (i + 1), Text.upper f.severity.name, f.classification.name,
    f.vulnerability.toOption.getD "",
    Text.joinWith ", " (f.label.origins.toList.map Origin.name),
    f.sink.api.asText ++ "[" ++ f.sink.argIndex.toDocument.asText ++ "] @ " ++ place f.sink,
    f.sink.context.label, fixedPlaces 2 (f.confidence.toReal.toOption.getD 0.0), toString f.collapsed]

/-- How many findings a table shows. -/
def rowLimit : Nat := 25

def findingTable (fs : List Finding) : Display :=
  if fs.isEmpty then .empty
  else
    let shown := fs.take rowLimit
    table findingColumns (((List.range shown.length).zip shown).map findingRow)
      ++ (if fs.length > rowLimit then
        say ("[dim]... and " ++ toString (fs.length - rowLimit)
          ++ " more (use --json for full output)[/dim]")
        else .empty)

def statistics (s : ScanStats) : Display :=
  say ("Functions: " ++ toString s.functionsAnalyzed ++ "/" ++ toString s.functionsTotal
    ++ " analyzed, " ++ toString s.failedFunctions.size ++ " degraded | Sink sites: "
    ++ toString s.sinkSites ++ " | Paths: " ++ toString s.pathsEnumerated ++ " ("
    ++ toString s.pathsCollapsed ++ " collapsed)")
  ++ (if s.unresolvedCalls ≠ 0 ∨ s.unknownEdges ≠ 0 then
    say ("[dim]Unresolved calls: " ++ toString s.unresolvedCalls
      ++ ", unknown propagation edges: " ++ toString s.unknownEdges ++ "[/dim]")
    else .empty)
  ++ .each s.failedFunctions.entries (fun (id, why) => warning (id ++ ": " ++ why))

/-- The panel that ends the report of a scan. -/
def statusPanel (r : ScanResult) (output : String) : Display :=
  let status := r.exitStatus
  let insufficient := Finding.count .insufficient r.findings
  let (title, line) :=
    if status = .incomplete then ("INCOMPLETE", status.description)
    else if insufficient ≠ 0 then
      (if status = .critical then "CRITICAL" else "HIGH",
        toString insufficient ++ " insufficiently neutralized flow(s)")
    else ("CLEAN", status.description)
  panel (Text.joinWith "\n" ["STATUS: [" ++ title ++ "]", line, "Report: " ++ output])

/-- The report of a scan with the given findings listed. -/
def scanReport (r : ScanResult) (listed : List Finding) (output : String) : Display :=
  heading "SINKTRACE SCAN" ++ statistics r.stats ++ findingTable listed ++ statusPanel r output

def conflictWarnings (r : Registry) : Display :=
  .each r.conflicts (fun c => warning c.message)

def rulesReport (r : Registry) : Display :=
  let stats := r.stats
  let canonicalized := Text.joinWith ", " (r.canonicalized.toList.map Context.name)
  heading "RULE DATABASE"
  ++ table [⟨"Role", false⟩, ⟨"Rules", true⟩]
    [["sources", toString stats.sources], ["sinks", toString stats.sinks],
      ["sanitizers", toString stats.sanitizers]]
  ++ say ("[dim]Canonicalization required for: "
    ++ (if canonicalized.isEmpty then "none" else canonicalized) ++ "[/dim]")
  ++ (if r.conflicts.isEmpty then
      success (toString stats.total ++ " rules loaded, no conflicts")
    else conflictWarnings r)

end Console

/-- The counts of a registry with its conflicts in full. -/
def Registry.statsDocument (r : Registry) : Document :=
  let details := r.conflicts.map (fun c => Document.object
    [("api", .text c.api), ("context", .text c.context), ("origin", .text c.origin)])
  match r.stats.toDocument with
  | .object fields => .object (fields ++ [("conflict_details", .list details)])
  | other => other

end TaintFlow
