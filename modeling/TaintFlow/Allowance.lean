import TaintFlow.Number.Amount

/-!
# Cancellation

A run asks at its checkpoints whether it may go on. An allowance says how many times the answer is
still yes; without one a run is never cancelled.
-/

namespace TaintFlow

/-- How many more checkpoints a run may pass. -/
inductive Allowance where
  | unlimited
  | checks (left : Nat)
  /-- What was given says nothing about checkpoints. -/
  | senseless
deriving DecidableEq, Repr

namespace Allowance

/-- The allowance that a document states. -/
def ofDocument (d : Document) : Allowance :=
  match d.amount?.map Amount.bound? with
  | some (some n) => .checks n
  | some none => .unlimited
  | none => .senseless

/-- Passes a checkpoint of a pass, if the run may go on. -/
def check (a : Allowance) (during : Pass) : Result Allowance :=
  match a with
  | unlimited => .ok a
  | checks 0 => .error (.cancelled during)
  | checks (n + 1) => .ok (.checks n)
  | senseless => .error .wrongKind

end Allowance

end TaintFlow
