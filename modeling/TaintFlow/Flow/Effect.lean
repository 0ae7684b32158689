import TaintFlow.Collection.OrderedMap
import TaintFlow.TaintSet

/-!
# The effect of a call

What a caller has to know about a called function: which inputs flow into which outputs, which taint
the function makes itself, and which definitions reach its end. Inputs and outputs are markers of
parameters, the receiver, globals and the result.
-/

namespace TaintFlow

/-- A flow from an input to an output. A mark that is truthy says that the flow goes through code
that is not modelled. -/
structure Transfer where
  input : Atom
  output : Atom
  mark : Atom
deriving DecidableEq, Repr

namespace Transfer

def unknown (t : Transfer) : Bool := t.mark.isTruthy

/-- Transfers are ordered by input, then output, those through known code first. -/
def order : Transfer → Transfer → Ordering :=
  compareLex (compareOn input) (compareLex (compareOn output) (compareOn mark))

instance : Ord Transfer := ⟨order⟩

instance : Std.TransOrd Transfer :=
  inferInstanceAs (Std.TransCmp
    (compareLex (compareOn input) (compareLex (compareOn output) (compareOn mark))))

instance : Std.LawfulEqOrd Transfer where
  eq_of_compare {a b} h := by
    have h : order a b = .eq := h
    obtain ⟨_, _, _⟩ := a
    obtain ⟨_, _, _⟩ := b
    simp only [order, compareLex, compareOn, Ordering.then_eq_eq] at h
    obtain ⟨hi, ho, hm⟩ := h
    rw [Std.LawfulEqOrd.eq_of_compare hi, Std.LawfulEqOrd.eq_of_compare ho,
      Std.LawfulEqOrd.eq_of_compare hm]
  compare_self := Std.ReflOrd.compare_self

/-- The flow that two or three members state; the third is the mark. -/
def ofDocument (d : Document) : Result Transfer := do
  match ← d.members with
  | [input, output] => return ⟨input.atom, output.atom, false⟩
  | [input, output, mark] => return ⟨input.atom, output.atom, mark.atom⟩
  | _ => .error .wrongKind

def members (t : Transfer) : List Atom := [t.input, t.output, t.mark]

/-- Whether two flows are one, however their members are written. -/
def same (a b : Transfer) : Bool :=
  (a.members.zip b.members).all (fun (x, y) => x.same y)

/-- The set of some flows, of each the first way in which it is written. Nothing with parts can be a
member of one. -/
def setOf (ts : List Transfer) : Result (OrderedSet Transfer) :=
  if ts.all (fun t => t.members.all (fun a => a.key?.isSome)) then
    .ok (.ofList (ts.foldl (fun kept t => if kept.any t.same then kept else kept ++ [t]) []))
  else .error .wrongKind

end Transfer

structure Effect where
  transfers : OrderedSet Transfer
  generated : NameMap TaintSet
  exitDefs : NameMap Names
  /-- The function could not be analysed. -/
  unknown : Bool
deriving DecidableEq, Repr

namespace Effect

/-- The effect of a function that is not summarised yet. -/
def pending : Effect := ⟨∅, ∅, ∅, false⟩

/-- Whether two effects are the same at every call. -/
def same (a b : Effect) : Bool :=
  a.unknown == b.unknown && a.transfers == b.transfers
    && a.generated.agrees TaintSet.same b.generated && a.exitDefs == b.exitDefs

/-- The effect that a document states; every part may be absent. -/
def ofDocument (d : Document) : Result Effect := do
  let transfers ← (← d.itemsOf "transfers").mapM Transfer.ofDocument
  let generated ← (← d.fieldsAt "generated").mapM (fun (name, taint) => do
    return (name, ← TaintSet.ofDocument taint))
  let exitDefs ← (← d.fieldsAt "exit_defs").mapM (fun (name, defs) => do
    return (name, OrderedSet.ofList ((← defs.members).map Document.asText)))
  return ⟨← Transfer.setOf transfers, .ofList generated, .ofList exitDefs,
    ((d.field? "unknown").map Document.isTruthy).getD false⟩

end Effect

end TaintFlow
