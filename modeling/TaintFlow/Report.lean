import TaintFlow.Finding.Selection
import TaintFlow.Scan

/-!
# The report of a scan

A report is a document with the findings, their counts by type, severity and verdict, and the
statistics of the scan. The exit status of a scan tells the gravest thing about it.
-/

namespace TaintFlow

/-- How a scan ended. -/
inductive ExitStatus where
  | clean
  | insufficient
  | critical
  | incomplete
deriving DecidableEq, Repr

namespace ExitStatus

def all : List ExitStatus := [clean, insufficient, critical, incomplete]

def code : ExitStatus → Nat
  | clean => 0
  | insufficient => 1
  | critical => 2
  | incomplete => 3

def description : ExitStatus → String
  | clean => "Success - No insufficiently neutralized flows"
  | insufficient => "Insufficiently neutralized flows detected"
  | critical => "Insufficiently neutralized flow into a critical sink"
  | incomplete => "Analysis incomplete - every function failed"

/-- The status with a code. -/
def ofCode? (code : Int) : Option ExitStatus := all.find? (fun s => (s.code : Int) = code)

/-- The whole number that a document equals, if it is a number or a truth value. -/
def codeOf? : Document → Option Int
  | .whole n => some n
  | .bool b => some (if b then 1 else 0)
  | .real x => (all.map (fun s => (s.code : Int))).find? (fun n => x == Float.ofInt n)
  | _ => none

/-- What an exit code means. Lists and objects are no codes at all. -/
def describe : Document → Result String
  | .list _ | .object _ => .error .wrongKind
  | d =>
    match (codeOf? d).bind ofCode? with
    | some s => .ok s.description
    | none => .ok ("Unknown exit code: " ++ d.asText)

end ExitStatus

/-- The status of a scan with these findings. -/
def exitStatusOf (incomplete : Bool) (findings : List Finding) : ExitStatus :=
  let insufficient := findings.filter (fun f => f.classification = .insufficient)
  if incomplete then .incomplete
  else if insufficient.any (fun f => f.severity = .critical) then .critical
  else if insufficient.isEmpty then .clean
  else .insufficient

/-- How often each name occurs. -/
def tally (names : List String) : Document :=
  let counts := names.foldl (fun m name => m.set name (m.getD name 0 + 1)) (∅ : NameMap Nat)
  .object (counts.entries.map (fun (name, n) => (name, .ofNat n)))

/-- The vulnerability types of the findings that are not sufficiently neutralized. -/
def openTypes (fs : List Finding) : Result (List String) :=
  (fs.filter (fun f => f.classification ≠ .sufficient)).mapM Finding.vulnerability

/-- The report on some findings of which the given ones are listed. The counts are those of all. -/
def reportFields (findings listed : List Finding) (stats : ReportedStats) :
    Result (List (String × Document)) := do
  return [("success", .bool true),
    ("findings", .list (← listed.mapM Finding.toDocument)),
    ("total_findings", .ofNat listed.length),
    ("vulnerabilities_by_type", tally (← openTypes findings)),
    ("summary", .object [
      ("by_severity", tally (findings.map (fun f => f.severity.name))),
      ("insufficient", .ofNat (Finding.count .insufficient findings)),
      ("unknown", .ofNat (Finding.count .unknown findings)),
      ("sufficient", .ofNat (Finding.count .sufficient findings))]),
    ("stats", stats.toDocument)]

namespace ScanResult

def exitStatus (r : ScanResult) : ExitStatus := exitStatusOf r.stats.isIncomplete r.findings

/-- The report with the given findings listed. -/
def reportOf (r : ScanResult) (listed : List Finding) : Result (List (String × Document)) :=
  reportFields r.findings listed (.ofScan r.stats)

def toDocument (r : ScanResult) : Result Document := do return .object (← r.reportOf r.findings)

/-- The text of the report that is kept, stamped with the id of the request. -/
def savedText (r : ScanResult) (request : String) : Result String := do
  let fields ← r.reportOf r.findings
  return (Document.object (fields ++ [("request_id", .text request)])).writeIndented 0

/-- The check that all findings were written. -/
def savedOutcome (r : ScanResult) : Fidelity.Outcome :=
  let count := Document.ofNat r.findings.length
  Fidelity.checkOutput count count false none

end ScanResult

end TaintFlow
