import TaintFlow.Document.Basic

/-!
# Outcomes of a fidelity check

A check compares what a stage of the pipeline was to produce with what it did produce. It fails on
an error, and otherwise says whether anything deserves attention.
-/

namespace TaintFlow.Fidelity

structure Outcome where
  /-- The stage as it was asked for; only those with a name of their own are checked. -/
  stage : Document
  errors : List String
  warnings : List String
deriving DecidableEq, Repr

namespace Outcome

def failed (o : Outcome) : Bool := !o.errors.isEmpty

def status (o : Outcome) : String :=
  if o.failed then "FAILED" else if o.warnings.isEmpty then "OK" else "WARNING"

end Outcome

end TaintFlow.Fidelity
