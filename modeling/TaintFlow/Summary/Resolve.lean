import TaintFlow.Allowance
import TaintFlow.CallGraph
import TaintFlow.Program.Validate
import TaintFlow.Summary.Basic

/-!
# Summaries of a whole program

Functions are summarised layer by layer, called functions first. The members of a recursive component
are summarised in rounds until no summary changes; a component that does not settle within its budget
becomes unknown, and so does every function that cannot be analysed. A summary of an earlier run is
used again when neither the function nor anything it calls has changed.
-/

namespace TaintFlow

structure ResolveLimits where
  maxVisits : Int
  maxRounds : Int

structure Resolution where
  summaries : NameMap Summary
  failures : NameMap String
  recomputed : Names
  reused : Names

namespace Resolution

def empty : Resolution := ⟨∅, ∅, ∅, ∅⟩

/-- Publishes an unknown summary. -/
def fail (r : Resolution) (function contentHash error : String) : Resolution :=
  { r with
    summaries := r.summaries.set function (.failed function contentHash error)
    failures := r.failures.set function error
    recomputed := r.recomputed.insert function }

/-- Publishes a computed summary. -/
def publish (r : Resolution) (s : Summary) : Resolution :=
  { r with
    summaries := r.summaries.set s.function s
    failures :=
      if s.unknown then r.failures.set s.function (s.error.getD "unknown failure") else r.failures
    recomputed := r.recomputed.insert s.function }

end Resolution

/-- What summarising the functions of a program needs. -/
structure Resolver where
  program : Program
  graph : CallGraph
  rules : Registry
  limits : ResolveLimits
  /-- The functions that meet the structural preconditions. -/
  valid : Names
  previous : NameMap Summary

namespace Resolver

/-- The functions that meet the structural preconditions. -/
def validFunctions (p : Program) : Names :=
  .ofList ((p.functions.entries.filter (fun (_, f) => f.isValid p.functionIds)).map Prod.fst)

def ofProgram (p : Program) (rules : Registry) (limits : ResolveLimits)
    (previous : NameMap Summary) : Resolver :=
  ⟨p, .ofProgram p, rules, limits, validFunctions p, previous⟩

/-- The resolution in which everything that cannot be analysed has failed. -/
def initial (r : Resolver) : Resolution :=
  let unread := r.program.malformed.entries.foldl (fun res (id, what) =>
    res.fail id "" what.message) .empty
  r.program.functions.entries.foldl (fun res (id, f) =>
    match f.defect? r.program.functionIds with
    | some cause => res.fail id f.contentHash (Malformed.message ⟨f.id, cause⟩)
    | none => res) unread

/-- Analyses a function with markers for its inputs, given the summaries of what it calls. A fault
that does not belong to the function stops everything. -/
def summarize (r : Resolver) (summaries : String → Option Summary) (f : Function) :
    Result Summary :=
  let frame : Frame :=
    ⟨f, r.rules, fun id => (summaries id).map Summary.toEffect, r.program.globals,
      r.program.functionIds⟩
  match frame.analyze (.whole r.limits.maxVisits) (f.symbolicInputs r.program.globals) with
  | .ok a => .ok (.ofAnalysis f a)
  | .error fault =>
    if fault.isLocal then .ok (.failed f.id f.contentHash fault.message) else .error fault

/-- One function of a round: its new summary replaces the provisional one if its effect differs.
A function that has become unknown stays so. -/
def refine (r : Resolver) (published : NameMap Summary)
    (round : NameMap Summary × Bool) (id : String) : Result (NameMap Summary × Bool) := do
  let (provisional, _) := round
  let old := provisional.get? id
  match r.program.functions.get? id with
  | none => return round
  | some f =>
    if old.any (fun s => s.unknown) then return round
    else
      let new ← r.summarize (fun id => (provisional.get? id).or (published.get? id)) f
      if old.any (fun s => new.toEffect.same s.toEffect) then return round
      else return (provisional.set id new, true)

/-- Summarises the members of a component in rounds: the provisional summaries, and whether the
last round changed none of them. -/
def rounds (r : Resolver) (published : NameMap Summary) (members : List String) :
    Nat → NameMap Summary → Result (NameMap Summary × Bool)
  | 0, provisional => .ok (provisional, false)
  | n + 1, provisional => do
    let (next, changed) ← members.foldlM (r.refine published) (provisional, false)
    if changed then r.rounds published members n next else return (next, true)

/-- The summaries of the members of a component. The members of one that does not settle become unknown,
with a message that shows the number of rounds. -/
def summarizeComponent (r : Resolver) (published : NameMap Summary) (component : Names) :
    Result (List Summary) := do
  let members := component.toList.filter (fun id => id ∈ r.valid)
  let budget := if r.graph.isRecursive component then r.limits.maxRounds else 1
  let (provisional, settled) ← r.rounds published members budget.toNat ∅
  if settled || budget = 1 then return provisional.values
  else
    let shown ← (Document.whole r.limits.maxRounds).showable
    let error := Fault.divergence (Text.joinWith ", " members) shown
    return members.filterMap (fun id =>
      (r.program.functions.get? id).map (fun f => .failed id f.contentHash error))

/-- Whether a function's earlier summary still holds: the function is the same, the summary is
known, and nothing it calls outside its component was summarised anew. -/
def canReuse (r : Resolver) (res : Resolution) (component : Names) (id : String) : Bool :=
  match r.program.functions.get? id, r.previous.get? id with
  | some f, some old =>
    !old.unknown && old.contentHash == f.contentHash
      && (r.graph.callees.successors id).toList.all (fun callee =>
        callee ∈ component || callee ∉ res.recomputed)
  | _, _ => false

/-- Publishes the earlier summaries of a component, if all of them still hold. -/
def reuse? (r : Resolver) (res : Resolution) (component : Names) : Option Resolution :=
  if component.toList.all (r.canReuse res component) then
    some (component.toList.foldl (fun res id =>
      match r.previous.get? id with
      | some old => { res with
          summaries := res.summaries.set id old
          reused := res.reused.insert id }
      | none => res) res)
  else none

/-- Reuses what can be reused of a layer: the resolution after it and the components left over. -/
def reuseLayer (r : Resolver) (res : Resolution) (pending : List Names) :
    Resolution × List Names :=
  pending.foldl (fun (res, left) component =>
    match r.reuse? res component with
    | some res => (res, left)
    | none => (res, left ++ [component])) (res, [])

/-- Publishes the summaries of a layer, all computed from those of the lower layers. -/
def resolveLayer (r : Resolver) (res : Resolution) (layer : List Names) : Result Resolution := do
  let pending := layer.filter (fun c => c.toList.any (fun id => id ∈ r.valid))
  let (res, left) := r.reuseLayer res pending
  let results ← left.mapM (r.summarizeComponent res.summaries)
  return results.flatten.foldl Resolution.publish res

/-- Publishes the summaries of all layers, with what is left of the allowance. -/
def resolveLayers (r : Resolver) (allowance : Allowance) : Result (Resolution × Allowance) :=
  r.graph.layers.foldlM (fun (res, allowance) layer => do
    let allowance ← allowance.check .summaries
    return (← r.resolveLayer res layer, allowance)) (r.initial, allowance)

/-- Publishes a summary for every function, with what is left of the allowance. -/
def resolve (r : Resolver) (allowance : Allowance) : Result (Resolution × Allowance) :=
  if CallGraph.isDefinedFor r.program then r.resolveLayers allowance else .error .wrongKind

end Resolver

end TaintFlow
