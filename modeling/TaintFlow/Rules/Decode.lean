import TaintFlow.Document.Reader
import TaintFlow.Journal.Level
import TaintFlow.Rules.Registry

/-!
# Rules from documents

A rule document is an object with a list of rules. A rule that cannot be read is skipped as a
whole; a document of another shape is refused.
-/

namespace TaintFlow

namespace Registry

/-- Contexts given as one text or as the members of a document. -/
def contextsOf (d : Document) : Result (List Context) := do
  match d with
  | .text _ => Context.ofDocuments [d]
  | other => Context.ofDocuments (← other.members)

def registerSource (r : Registry) (api : Document) (origin : Document)
    (context : Option Document) : Result Registry := do
  let origin ← Origin.ofDocument origin
  let context ← (context.filter Document.isTruthy).mapM Context.ofDocument
  return r.addSource (← api.key) api.asText ⟨origin, context⟩

/-- Registers a sink; contexts are outermost first. -/
def registerSink (r : Registry) (api : Document) (contexts : Document)
    (args : Option Document) : Result Registry := do
  let layers ← contextsOf contexts
  if layers.isEmpty then .error (.invalid (.sinkWithoutContext api.asText))
  else
    let args ← (args.filter (fun d => !d.isNull)).mapM (fun d => do
      (← d.members).mapM Document.toWhole)
    return r.addSink (← api.key) ⟨layers, args⟩

def registerSanitizer (r : Registry) (api : Document) (contexts : Option Document)
    (strength : Document) : Result Registry := do
  let strength ← Strength.ofDocument strength
  let contexts ← match contexts.filter (fun d => !d.isNull) with
    | some d => contextsOf d
    | none => .ok []
  if contexts.isEmpty && strength ≠ .parameterization then
    .error (.invalid (.sanitizerWithoutContext api.asText))
  else return r.addSanitizer (← api.key) api.asText ⟨.ofList contexts, strength⟩

/-- Registers one rule of a rule document. -/
def registerRule (r : Registry) (d : Document) : Result Registry := do
  let fields ← match d with
    | .object fields => .ok fields
    | _ => .error .wrongKind
  let some api := fields.lookup "api" | .error (.missing "api")
  let api := Document.text api.asText
  let some role := fields.lookup "role" | .error (.missing "role")
  let role := Text.lower role.asText
  let contexts := (fields.lookup "contexts").or (fields.lookup "context")
  if role == "source" then
    r.registerSource api ((fields.lookup "origin").getD (.text "unknown-external"))
      (fields.lookup "context")
  else if role == "sink" then
    match contexts.filter (fun d => !d.isNull) with
    | some contexts => r.registerSink api contexts (fields.lookup "args")
    | none => .error (.invalid .sinkRuleWithoutContext)
  else if role == "sanitizer" then
    r.registerSanitizer api contexts ((fields.lookup "strength").getD (.text "whitelist"))
  else .error (.invalid (.role (Text.quoted role)))

/-- Faults of a single rule, which is then skipped. -/
def isSkipped : Fault → Bool
  | .missing _ | .invalid _ | .wrongKind => true
  | _ => false

/-- A registry with the rules that were skipped while it was filled. -/
structure Loaded where
  registry : Registry
  skipped : List (Nat × Document × Fault)

def addRule (loaded : Loaded) (rule : Nat × Document) : Result Loaded :=
  match loaded.registry.registerRule rule.2 with
  | .ok registry => .ok { loaded with registry }
  | .error fault =>
    if isSkipped fault then
      .ok { loaded with skipped := loaded.skipped ++ [(rule.1, rule.2, fault)] }
    else .error fault

/-- The contexts that need canonicalization, the built-in ones when none are given. -/
def canonicalizedOf (field : Option Document) : Result (OrderedSet Context) := do
  match field.filter (fun d => !d.isNull) with
  | some d => return .ofList (← Context.ofDocuments (← d.members))
  | none => return defaultCanonicalized

def load (d : Document) : Result Loaded := do
  match d.field? "rules" with
  | some (.list rules) =>
    let registry := empty (← canonicalizedOf (d.field? "canonicalization_required"))
    let registry := { registry with version := (d.field? "version").getD (.whole 1) }
    ((List.range rules.length).zip rules).foldlM addRule ⟨registry, []⟩
  | _ => .error (.invalid .rulesShape)

def ofDocument (d : Document) : Result Registry := do return (← load d).registry

/-- A registry from the text of a file. -/
def loadText (text : String) : Result Loaded := do load (← Document.read text)

/-- What is told about a rule that was skipped. -/
def skippedMessage (entry : Nat × Document × Fault) : String :=
  "Skipping invalid rule #" ++ toString entry.1 ++ " (" ++ entry.2.1.shown ++ "): "
    ++ entry.2.2.message

/-- What is told about a registry that was filled. -/
def Loaded.notices (l : Loaded) (path : String) : List Notice :=
  l.registry.conflicts.map (fun c => .warning c.message)
    ++ l.skipped.map (fun entry => .warning (skippedMessage entry))
    ++ [.debug ("Loaded rule database " ++ path ++ ": " ++ l.registry.stats.toDocument.shown)]

end Registry

end TaintFlow
