import TaintFlow.Context

/-!
# Composite contexts

Nested placements, such as a script literal inside an attribute inside a page. Layers are listed
innermost first, which is the order in which encoders have to be applied, and there is at least one.
-/

namespace TaintFlow

structure Composite where
  innermost : Context
  enclosing : List Context
deriving DecidableEq, Repr

namespace Composite

/-- The layers, innermost first. -/
def layers (c : Composite) : List Context := c.innermost :: c.enclosing

def outermost (c : Composite) : Context := c.enclosing.getLastD c.innermost

def isNested (c : Composite) : Bool := !c.enclosing.isEmpty

def ofLayers? : List Context → Option Composite
  | [] => none
  | innermost :: enclosing => some ⟨innermost, enclosing⟩

/-- Drops each context that repeats the one before it. -/
def collapse : List Context → List Context
  | [] => []
  | [a] => [a]
  | a :: b :: rest => if a = b then collapse (b :: rest) else a :: collapse (b :: rest)

/-- Builds a composite from a walk inwards, in which repeated adjacent layers count once. -/
def ofOutermost? (walk : List Context) : Option Composite := ofLayers? (collapse walk).reverse

def names (c : Composite) : List String := c.layers.map Context.name

def label (c : Composite) : String := Text.joinWith " < " c.names

def orEmpty (c : Option Composite) : Result Composite :=
  match c with
  | some c => .ok c
  | none => .error (.invalid .emptyComposite)

/-- A composite from a document whose members are the layers, innermost first. -/
def ofDocuments (ds : List Document) : Result Composite := do
  orEmpty (ofLayers? (← Context.ofDocuments ds))

/-- A composite from an optional document; the body of a page when there is none. -/
def ofDocument? (d : Option Document) : Result Composite := do
  match d with
  | some d => ofDocuments (← d.members)
  | none => return ⟨.htmlBody, []⟩

end Composite

end TaintFlow
