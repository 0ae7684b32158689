import TaintFlow.Flow.Analysis
import TaintFlow.Program.Encode

/-!
# Function summaries

The state at the end of a function that was analysed with markers for its inputs, compressed into an
effect. A function that cannot be analysed has an unknown summary.
-/

namespace TaintFlow

structure Summary extends Effect where
  function : String
  /-- The hash of the function that was summarised. -/
  contentHash : String
  /-- The outputs that are reached through unknown code. -/
  unknownOutputs : Names
  error : Option String
deriving DecidableEq, Repr

namespace Summary

def failed (function contentHash error : String) : Summary :=
  ⟨⟨∅, ∅, ∅, true⟩, function, contentHash, ∅, some error⟩

/-- An output of a function: its marker, the slot that holds it at the end, and the definition that
stands for its value at the beginning. -/
structure Output where
  marker : String
  slot : String
  initial : Option String

/-- The outputs of a function: its result, its out parameters, and the globals that it writes. -/
def outputs (f : Function) (a : Analysis) : List Output :=
  let params := (f.indexedParams.filter (fun (_, p) => p.out)).map (fun (i, p) =>
    ⟨paramMarker i, p.name, some (f.paramKey i)⟩)
  let globals := (a.globals.toList.filter (fun name =>
    !((a.exit.defsOf (some (.text name))).erase (globalKey name)).isEmpty)).map (fun name =>
      ⟨globalMarker name, name, some (globalKey name)⟩)
  ⟨returnSlot, returnSlot, none⟩ :: params ++ globals

/-- The definitions of an output at the end, without the one that stands for its initial value. -/
def Output.definitions (o : Output) (exit : State) : Names :=
  match o.initial with
  | some key => (exit.defsOf (some (.text o.slot))).erase key
  | none => exit.defsOf (some (.text o.slot))

/-- The flows into an output. That an output keeps its own value is not counted as one. -/
def Output.transfers (o : Output) (exit : State) : List Transfer :=
  (exit.taintOf (some (.text o.slot))).labels.flatMap (fun l =>
    (l.symbols.toList.filter (fun marker => marker ≠ o.marker || l.crossedUnknown)).map
      (fun marker => ⟨.text marker, .text o.marker, .truth l.crossedUnknown⟩))

def Output.crossesUnknown (o : Output) (exit : State) : Bool :=
  (exit.taintOf (some (.text o.slot))).labels.any Label.crossedUnknown

/-- The summary of a function from its analysis with symbolic inputs. -/
def ofAnalysis (f : Function) (a : Analysis) : Summary :=
  let outputs := outputs f a
  let generated := (outputs.map (fun o => (o.marker, (a.exit.taintOf (some (.text o.slot))).concrete))).filter
    (fun (_, taint) => !taint.isEmpty)
  let exitDefs := (outputs.map (fun o => (o.marker, o.definitions a.exit))).filter
    (fun (_, defs) => !defs.isEmpty)
  { transfers := .ofList (outputs.flatMap (fun o => o.transfers a.exit))
    generated := .ofList generated
    exitDefs := .ofList exitDefs
    unknown := false
    function := f.id
    contentHash := f.contentHash
    unknownOutputs := .ofList
      ((outputs.filter (fun o => o.crossesUnknown a.exit)).map Output.marker)
    error := none }

def toDocument (s : Summary) : Document :=
  .object [
    ("function", .text s.function),
    ("content_hash", .text s.contentHash),
    ("unknown", .bool s.unknown),
    ("error", .ofText? s.error),
    ("transfers", .list (s.transfers.toList.map (fun t =>
      .list (t.members.map Atom.toDocument)))),
    ("generated", .object (s.generated.entries.map (fun (output, taint) =>
      (output, .ofTexts (taint.origins.toList.map Origin.name))))),
    ("unknown_outputs", .ofTexts s.unknownOutputs.toList)]

end Summary

end TaintFlow
