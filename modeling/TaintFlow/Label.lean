import TaintFlow.Context
import TaintFlow.Document.Atom
import TaintFlow.Origin

/-!
# Taint labels

A label says where a value came from: its origins, the context in which it was read, and the way it
took. While a function is summarised without its callers, symbolic markers stand for whatever
arrives through a parameter, the receiver or a global. Two labels are the same when origins, context
and markers agree, whatever way they took.
-/

namespace TaintFlow

/-- A step of a label's way. A mark that is truthy says that the step went through code that is not
modelled. -/
structure Hop where
  node : Atom
  mark : Atom
deriving DecidableEq, Repr

namespace Hop

def unknown (h : Hop) : Bool := h.mark.isTruthy

/-- The step that the two members of a document state. -/
def ofDocument (d : Document) : Result Hop := do
  match ← d.members with
  | [node, mark] => return ⟨node.atom, mark.atom⟩
  | members => .error (.invalid (.pair members.length))

def toDocument (h : Hop) : Document := .list [h.node.toDocument, h.mark.toDocument]

/-- A step on one line, with a question mark if it is unknown. A node that is no text can be shown
only together with it. -/
def describe (h : Hop) : Result String :=
  if h.unknown then .ok (h.node.toDocument.asText ++ "?")
  else
    match h.node with
    | .text node => .ok node
    | _ => .error .wrongKind

end Hop

/-- What distinguishes labels. -/
structure Identity where
  origins : OrderedSet Origin
  context : Option Context
  symbols : Names
deriving DecidableEq, Repr

structure Label extends Identity where
  provenance : List Hop
deriving DecidableEq, Repr

namespace Label

def identity (l : Label) : Identity := l.toIdentity

/-- A fresh label made at a node. -/
def source (origin : Origin) (node : Atom) (context : Option Context) : Label :=
  ⟨⟨.singleton origin, context, ∅⟩, [⟨node, false⟩]⟩

/-- A label that stands for whatever arrives through a marker. -/
def symbolic (marker : String) (node : Atom) : Label :=
  ⟨⟨∅, none, .singleton marker⟩, [⟨node, false⟩]⟩

def isConcrete (l : Label) : Bool := !l.origins.isEmpty

def isSymbolic (l : Label) : Bool := !l.symbols.isEmpty && l.origins.isEmpty

/-- How well a label's origins explain a flow. -/
def specificity (l : Label) : Int :=
  l.origins.toList.foldl (fun best o => max best o.specificity) (-1)

/-- Whether the way crossed code that is not modelled. -/
def crossedUnknown (l : Label) : Bool := l.provenance.any Hop.unknown

def unknownOnly (l : Label) : Bool := l.origins == .singleton .unknownExternal

def nodes (l : Label) : List Atom := l.provenance.map Hop.node

/-- The most specific origin; of equally specific ones, the one with the last name. -/
def primaryOrigin? (l : Label) : Option Origin :=
  match l.origins.toList with
  | [] => none
  | o :: rest => some (rest.foldl Origin.prefer o)

/-- The label after a step through a node. A known step to where the label already is adds nothing. -/
def extend (l : Label) (node mark : Atom) : Label :=
  match l.provenance.getLast? with
  | some last =>
    if last.node.same node ∧ mark.isTruthy = false then l
    else { l with provenance := l.provenance ++ [⟨node, mark⟩] }
  | none => { l with provenance := l.provenance ++ [⟨node, mark⟩] }

def markUnknown (l : Label) (node : Atom) : Label := l.extend node true

def withoutSymbols (l : Label) : Label := { l with symbols := ∅ }

/-- Whether the way of `a` explains a flow at least as well as that of `b`: the more specific
origin, then a way that crossed nothing unknown, then the shorter way, then the first in order. -/
def preferred (a b : Label) : Bool :=
  if a.specificity ≠ b.specificity then a.specificity > b.specificity
  else if a.crossedUnknown ≠ b.crossedUnknown then !a.crossedUnknown
  else if a.provenance.length ≠ b.provenance.length then a.provenance.length < b.provenance.length
  else (compare a.nodes b.nodes).isLE

/-- Whether it can be told which of two ways explains a flow better. -/
def isComparable (a b : Label) : Bool :=
  a.specificity ≠ b.specificity || a.crossedUnknown ≠ b.crossedUnknown
    || a.provenance.length ≠ b.provenance.length || Atom.areComparable a.nodes b.nodes

/-- A label with every origin and marker of both. A context survives when both agree on it. -/
def join (a b : Label) : Label where
  origins := a.origins ∪ b.origins
  context := if a.context = b.context then a.context else none
  symbols := a.symbols ∪ b.symbols
  provenance := if a.preferred b then a.provenance else b.provenance

/-- The join of two labels whose ways can be compared. -/
def join? (a b : Label) : Result Label :=
  if a.isComparable b then .ok (a.join b) else .error .wrongKind

theorem identity_join_of_eq {a b : Label} (h : a.identity = b.identity) :
    (a.join b).identity = a.identity := by
  obtain ⟨⟨_, _, _⟩, _⟩ := a
  obtain ⟨⟨_, _, _⟩, _⟩ := b
  simp only [identity, Identity.mk.injEq] at h
  obtain ⟨rfl, rfl, rfl⟩ := h
  simp [join, identity]

/-- The order in which labels are listed: by origins, context, markers and way. -/
def order (a b : Label) : Ordering :=
  (compare (a.origins.toList.map Origin.name) (b.origins.toList.map Origin.name)).then
    ((compare ((a.context.map Context.name).getD "") ((b.context.map Context.name).getD "")).then
      ((compare a.symbols.toList b.symbols.toList).then (compare a.nodes b.nodes)))

/-- What a label is stated by. -/
def fields (l : Label) : List (String × Document) :=
  [("origins", .ofTexts (l.origins.toList.map Origin.name)),
    ("context", .ofText? (l.context.map Context.name)),
    ("symbols", .ofTexts l.symbols.toList),
    ("provenance", .list (l.provenance.map Hop.toDocument))]

def toDocument (l : Label) : Document := .object l.fields

/-- A marker is a text. -/
def markerOf : Document → Result String
  | .text marker => .ok marker
  | _ => .error .wrongKind

/-- The label that a document states. A context that is falsy stands for none. -/
def ofDocument (d : Document) : Result Label := do
  let origins ← (← d.itemsOf "origins").mapM Origin.ofDocument
  let context ← ((d.field? "context").filter Document.isTruthy).mapM Context.ofDocument
  let symbols ← (← d.itemsOf "symbols").mapM markerOf
  let provenance ← (← d.itemsOf "provenance").mapM Hop.ofDocument
  return ⟨⟨.ofList origins, context, .ofList symbols⟩, provenance⟩

/-- A label on one line, if all its steps can be shown. -/
def describe (l : Label) : Result String := do
  let origins := Text.joinWith "," (l.origins.toList.map Origin.name)
  let origins := if origins.isEmpty then "-" else origins
  let symbols := Text.joinWith "," l.symbols.toList
  let way := Text.joinWith " -> " (← l.provenance.mapM Hop.describe)
  let tag := if symbols.isEmpty then origins else origins ++ "|" ++ symbols
  return "TaintLabel(" ++ tag ++ " via " ++ way ++ ")"

end Label

end TaintFlow
