import TaintFlow.Context.Composite
import TaintFlow.Label
import TaintFlow.Number.Amount
import TaintFlow.Program.Basic
import TaintFlow.Rules.Registry
import TaintFlow.Severity

/-!
# Is a path neutralized?

That a sanitizer lies on a path is not enough. Parameterization anywhere protects the value.
Otherwise the layers of the context, innermost first, are matched to steps at increasing positions:
a layer needs a whitelist or canonicalization step for it, and a layer that requires canonicalization
needs both, in this order.
-/

namespace TaintFlow

/-- A sanitizer call on a path, at a position of the path. -/
structure Step where
  node : Atom
  api : Atom
  contexts : OrderedSet Context
  strength : Strength
  position : Atom
deriving DecidableEq, Repr

namespace Step

/-- Where a step stands on its path, in a measure of which a whole position is a multiple. -/
def place (s : Step) : Int := s.position.measure

/-- Whether a step stands anywhere: its position is a number. -/
def isPlaced (s : Step) : Bool := s.position.rank = 1

def covers (s : Step) (c : Context) : Bool := c ∈ s.contexts

def toDocument (s : Step) : Document :=
  .object [
    ("node", s.node.toDocument),
    ("api", s.api.toDocument),
    ("contexts", .ofTexts (s.contexts.toList.map Context.name)),
    ("strength", .text s.strength.name),
    ("position", s.position.toDocument)]

/-- The step that a document states. -/
def ofDocument (d : Document) : Result Step := do
  return {
    node := (← d.need "node").atom
    api := (← d.need "api").atom
    contexts := .ofList (← Context.ofDocuments (← (← d.need "contexts").members))
    strength := ← Strength.ofDocument (← d.need "strength")
    position := (← d.need "position").atom }

/-- The sanitizer calls strictly between the ends of a path. -/
def onPath (p : Program) (rules : Registry) (path : List String) : List Step :=
  let indexed := (List.range path.length).zip path
  let inner := (indexed.drop 1).dropLast
  inner.flatMap (fun (position, key) =>
    match p.node? key with
    | none => []
    | some n =>
      if n.kind = .call then
        (rules.sanitizersOf n.api).map (fun rule =>
          ⟨.text key, .text n.api.asText, rule.contexts, rule.strength, .whole position⟩)
      else [])

/-- The first step after a position that covers a layer with one of some strengths. -/
def first? (steps : List Step) (layer : Context) (after : Int) (strengths : List Strength) :
    Option Step :=
  steps.find? (fun s => after < s.place && s.strength ∈ strengths && s.covers layer)

end Step

structure Verdict where
  classification : Classification
  reason : String
  matched : List Step
deriving DecidableEq, Repr

namespace Verdict

open Step (first?)

/-- Why a layer that requires canonicalization is not protected. -/
def canonicalizationReason (steps : List Step) (layer : Context) (floor : Int)
    (canonicalized : Bool) : String :=
  if canonicalized then layer.name ++ " canonicalized but never validated afterwards"
  else if (first? steps layer floor [.whitelist]).isSome then
    layer.name ++ " validated without prior canonicalization"
  else if (first? steps layer floor [.blacklist]).isSome then
    layer.name ++ " only covered by blacklist filtering"
  else layer.name ++ " not neutralized in order"

/-- The steps that protect a layer after a position, or why it is not protected. -/
def matchLayer (required : Context → Bool) (steps : List Step) (context : Composite)
    (floor : Int) (layer : Context) : Except String (List Step × Int) :=
  if required layer then
    match first? steps layer floor [.canonicalization] with
    | none => .error (canonicalizationReason steps layer floor false)
    | some canon =>
      match first? steps layer canon.place [.whitelist] with
      | none => .error (canonicalizationReason steps layer floor true)
      | some validation => .ok ([canon, validation], validation.place)
  else
    match first? steps layer floor [.whitelist, .canonicalization] with
    | some step => .ok ([step], step.place)
    | none =>
      if (first? steps layer floor [.blacklist]).isSome then
        .error (layer.name ++ " only covered by blacklist filtering")
      else .error (layer.name ++ " not neutralized in order for " ++ context.label)

/-- Matches layers to steps, after what is matched already. -/
def matchLayers (required : Context → Bool) (steps : List Step) (context : Composite)
    (floor : Int) (matched : List Step) : List Context → Verdict
  | [] => ⟨.sufficient, "neutralized for " ++ context.label, matched⟩
  | layer :: rest =>
    match matchLayer required steps context floor layer with
    | .error reason => ⟨.insufficient, reason, matched⟩
    | .ok (found, floor) => matchLayers required steps context floor (matched ++ found) rest

/-- The verdict on a path with the given steps, the context it ends in and the label it carries. -/
def judge (required : Context → Bool) (steps : List Step) (context : Composite) (label : Label) :
    Verdict :=
  match steps.find? (fun s => s.strength = .parameterization) with
  | some step => ⟨.sufficient, "parameterized by " ++ step.api.toDocument.asText, [step]⟩
  | none =>
    if steps.any (fun s => context.layers.any s.covers) then
      matchLayers required steps context 0 [] context.layers
    else if label.unknownOnly then
      ⟨.unknown, "unknown-external origin, no neutralization", []⟩
    else ⟨.insufficient, "no neutralization for " ++ context.label, []⟩

/-- The verdict on steps of which some may stand nowhere. Layers are matched to the steps before the
first such step; that it is a fault to look further matters only if some layer asks for it. -/
def judge? (required : Context → Bool) (steps : List Step) (context : Composite) (label : Label) :
    Result Verdict :=
  let placed := steps.takeWhile Step.isPlaced
  let isMatched := steps.all (fun s => s.strength ≠ .parameterization)
    && steps.any (fun s => context.layers.any s.covers)
  if placed.length = steps.length || !isMatched then .ok (judge required steps context label)
  else
    let verdict := matchLayers required placed context 0 [] context.layers
    if verdict.classification = .sufficient then .ok verdict else .error .wrongKind

end Verdict

end TaintFlow
