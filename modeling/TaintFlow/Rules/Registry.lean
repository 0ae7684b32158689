import TaintFlow.Collection.OrderedMap
import TaintFlow.Context
import TaintFlow.Document.Key
import TaintFlow.Origin

/-!
# The rule registry

Rules give a called function the role of a source, of a sink, or of a sanitizer for certain
contexts. A function that is both a source and a sanitizer for one context is not trusted as a
sanitizer there; the conflict is recorded.
-/

namespace TaintFlow

/-- How a neutralization step protects a value. -/
inductive Strength where
  | whitelist
  | blacklist
  | parameterization
  | canonicalization
deriving DecidableEq, Repr

namespace Strength

def all : List Strength := [whitelist, blacklist, parameterization, canonicalization]

def name : Strength → String
  | whitelist => "whitelist"
  | blacklist => "blacklist"
  | parameterization => "parameterization"
  | canonicalization => "canonicalization"

def ofDocument (d : Document) : Result Strength :=
  let text := Text.lower d.asText
  match all.find? (fun s => s.name == text) with
  | some s => .ok s
  | none => .error (.invalid (.member "Strength" (Text.quoted text)))

end Strength

structure SourceRule where
  origin : Origin
  context : Option Context
deriving DecidableEq, Repr

/-- A sink. Layers are outermost first; without a list of arguments every one is checked. -/
structure SinkRule where
  layers : List Context
  args : Option (List Int)
deriving DecidableEq, Repr

def SinkRule.checks (r : SinkRule) (index : Int) : Bool :=
  match r.args with
  | none => true
  | some args => index ∈ args

/-- A sanitizer. Only parameterization may leave the contexts open. -/
structure SanitizerRule where
  contexts : OrderedSet Context
  strength : Strength
deriving DecidableEq, Repr

def SanitizerRule.covers (r : SanitizerRule) (c : Context) : Bool := c ∈ r.contexts

/-- A function declared as both a source and a sanitizer for one context. -/
structure RuleConflict where
  api : String
  context : String
  origin : String
deriving DecidableEq, Repr

def RuleConflict.message (c : RuleConflict) : String :=
  "Rule conflict: '" ++ c.api ++ "' is a " ++ c.origin ++ " source and a sanitizer for "
    ++ c.context ++ "; treating it as NOT a sanitizer for " ++ c.context

structure Registry where
  version : Document
  sources : KeyMap SourceRule
  sinks : KeyMap SinkRule
  sanitizers : KeyMap (List SanitizerRule)
  conflicts : List RuleConflict
  canonicalized : OrderedSet Context

namespace Registry

def empty (canonicalized : OrderedSet Context) : Registry :=
  ⟨.whole 1, ∅, ∅, ∅, [], canonicalized⟩

/-- The contexts that a source takes away from a sanitizer; `none` stands for a sanitizer without
contexts that loses everything. -/
def clashing (source : SourceRule) (rule : SanitizerRule) : List (Option Context) :=
  match source.context with
  | none => if rule.contexts.isEmpty then [none] else rule.contexts.toList.map some
  | some c => if c ∈ rule.contexts then [some c] else []

/-- What is left of a sanitizer rule next to a source rule for the same function. -/
def reduce (source : SourceRule) (rule : SanitizerRule) : Option SanitizerRule :=
  let clash := clashing source rule
  if clash.isEmpty then some rule
  else
    let remaining := rule.contexts.filter (fun c => some c ∉ clash)
    if remaining.isEmpty then none else some { rule with contexts := remaining }

def conflictsOf (api : String) (source : SourceRule) (rule : SanitizerRule) : List RuleConflict :=
  (clashing source rule).map (fun c =>
    ⟨api, (c.map Context.name).getD "*", source.origin.name⟩)

/-- The sanitizer rules of a function; a function without any has no entry. -/
def setSanitizers (r : Registry) (key : Key) (rules : List SanitizerRule) : Registry :=
  if rules.isEmpty then
    { r with sanitizers :=
      ⟨r.sanitizers.entries.filter (fun entry => entry.1 ≠ key), r.sanitizers.increasing.filter _⟩ }
  else { r with sanitizers := r.sanitizers.set key rules }

/-- Takes away the sanitizer roles that collide with a source role of the same function, which
conflicts name `api`. -/
def resolveConflicts (r : Registry) (key : Key) (api : String) : Registry :=
  match r.sources.get? key, r.sanitizers.get? key with
  | some source, some rules =>
    let r := { r with conflicts := r.conflicts ++ rules.flatMap (conflictsOf api source) }
    r.setSanitizers key (rules.filterMap (reduce source))
  | _, _ => r

def addSource (r : Registry) (key : Key) (api : String) (rule : SourceRule) : Registry :=
  { r with sources := r.sources.set key rule }.resolveConflicts key api

def addSink (r : Registry) (key : Key) (rule : SinkRule) : Registry :=
  { r with sinks := r.sinks.set key rule }

def addSanitizer (r : Registry) (key : Key) (api : String) (rule : SanitizerRule) : Registry :=
  { r with sanitizers := r.sanitizers.set key (r.sanitizers.getD key [] ++ [rule]) }.resolveConflicts
    key api

/-- The role of a call; a call without a name has none. -/
def lookup {α : Type} (rules : KeyMap α) (api : Document) : Option α :=
  if api.isTruthy then api.key?.bind rules.get? else none

def source? (r : Registry) (api : Document) : Option SourceRule := lookup r.sources api

def sink? (r : Registry) (api : Document) : Option SinkRule := lookup r.sinks api

def sanitizersOf (r : Registry) (api : Document) : List SanitizerRule :=
  (lookup r.sanitizers api).getD []

def isSanitizer (r : Registry) (api : Document) : Bool := !(r.sanitizersOf api).isEmpty

def requiresCanonicalization (r : Registry) (c : Context) : Bool := c ∈ r.canonicalized

/-- Counts of the registered rules. -/
structure Stats where
  sources : Nat
  sinks : Nat
  sanitizers : Nat
  conflicts : Nat
deriving DecidableEq, Repr

def Stats.total (s : Stats) : Nat := s.sources + s.sinks + s.sanitizers

def stats (r : Registry) : Stats :=
  ⟨r.sources.size, r.sinks.size,
    r.sanitizers.values.foldl (fun n rules => n + rules.length) 0, r.conflicts.length⟩

def Stats.toDocument (s : Stats) : Document :=
  .object [("sources", .ofNat s.sources), ("sinks", .ofNat s.sinks),
    ("sanitizers", .ofNat s.sanitizers), ("total", .ofNat s.total),
    ("conflicts", .ofNat s.conflicts)]

end Registry

end TaintFlow
