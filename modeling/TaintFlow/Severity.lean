import TaintFlow.Context.Composite

/-!
# Verdicts, severities and vulnerability types

How a flow is judged. The severity of an unneutralized flow is decided by the outermost layer of
its sink context, and so is the type of the vulnerability.
-/

namespace TaintFlow

/-- Whether the neutralization on a path is adequate. -/
inductive Classification where
  | sufficient
  | insufficient
  | unknown
deriving DecidableEq, Repr

namespace Classification

def all : List Classification := [sufficient, insufficient, unknown]

def name : Classification → String
  | sufficient => "SUFFICIENT"
  | insufficient => "INSUFFICIENT"
  | unknown => "UNKNOWN"

def ofDocument (d : Document) : Result Classification :=
  match d with
  | .text s =>
    match all.find? (fun c => c.name == s) with
    | some c => .ok c
    | none => .error (.invalid (.member "Classification" d.shown))
  | _ => .error (.invalid (.member "Classification" d.shown))

end Classification

inductive Severity where
  | critical
  | high
  | medium
  | low
  | info
deriving DecidableEq, Repr

namespace Severity

def all : List Severity := [critical, high, medium, low, info]

def name : Severity → String
  | critical => "critical"
  | high => "high"
  | medium => "medium"
  | low => "low"
  | info => "info"

/-- Higher is more severe. -/
def rank : Severity → Nat
  | critical => 4
  | high => 3
  | medium => 2
  | low => 1
  | info => 0

/-- One level less severe, never below low. -/
def lowered : Severity → Severity
  | critical => high
  | high => medium
  | medium => low
  | low => low
  | info => low

def ofDocument (d : Document) : Result Severity :=
  let text := Text.lower (Text.trim d.asText)
  match all.find? (fun s => s.name == text) with
  | some s => .ok s
  | none => .error (.invalid (.member "Severity" (Text.quoted text)))

end Severity

/-- The severity of an unneutralized flow into a sink of this context. -/
def Context.severity : Context → Severity
  | .rawCommandInterpreter => .critical
  | .htmlBody => .high
  | .htmlAttribute => .high
  | .scriptLiteral => .high
  | .filesystemPath => .high
  | .redirectTarget => .medium
  | .forwardTarget => .medium
  | .urlParameter => .medium
  | .cssValue => .medium
  | .logRecord => .low

namespace Composite

def baseSeverity (c : Composite) : Severity := c.outermost.severity

/-- The severity of a flow with the given verdict. -/
def severity (c : Composite) : Classification → Severity
  | .sufficient => .info
  | .insufficient => c.baseSeverity
  | .unknown => c.baseSeverity.lowered

/-- Parts of the names of calls that run a query. -/
def queryWords : List String :=
  ["sql", "query", "execute", "cursor", "hql", "raw", "statement"]

/-- The type of a vulnerability, from the sink context and the name of the called function. -/
def vulnerability (c : Composite) (api : String) : String :=
  match c.outermost with
  | .rawCommandInterpreter =>
    let api := Text.lower api
    if queryWords.any (fun word => Text.occursIn word api) then "SQL Injection"
    else if Text.occursIn "eval" api then "Code Injection"
    else "Command Injection"
  | .htmlBody | .htmlAttribute | .scriptLiteral => "Cross-Site Scripting (XSS)"
  | .cssValue => "CSS Injection"
  | .filesystemPath => "Path Traversal"
  | .redirectTarget => "Open Redirect"
  | .forwardTarget => "Unvalidated Forward"
  | .urlParameter => "Parameter Injection"
  | .logRecord => "Log Injection"

end Composite

end TaintFlow
