import TaintFlow.Document.Key
import TaintFlow.TaintSet

/-!
# States

At a program point every slot has a taint and a set of definitions that reach it. Joining two states
is taking the union slot by slot; a state grows by another one when the join adds a slot, a label
identity or a definition.
-/

namespace TaintFlow

structure State where
  taint : KeyMap TaintSet
  defs : KeyMap Names
deriving DecidableEq, Repr

namespace State

def empty : State := ⟨∅, ∅⟩

instance : Inhabited State := ⟨empty⟩

/-- The taint of a slot; a literal has none. -/
def taintOf (s : State) : Option Key → TaintSet
  | some slot => s.taint.getD slot ∅
  | none => ∅

/-- The definitions that reach a slot; a literal has none. -/
def defsOf (s : State) : Option Key → Names
  | some slot => s.defs.getD slot ∅
  | none => ∅

/-- Overwrites a slot. -/
def assign (s : State) (slot : Key) (taint : TaintSet) (definition : String) : State :=
  ⟨s.taint.set slot taint, s.defs.set slot (.singleton definition)⟩

/-- Adds to a slot what it may also hold. -/
def weakAssign (s : State) (slot : Key) (taint : TaintSet) (definition : String) : State :=
  ⟨s.taint.set slot (s.taintOf (some slot) ∪ taint),
    s.defs.set slot ((s.defsOf (some slot)).insert definition)⟩

/-- Adds to a slot what it may also hold, if labels that meet can be compared. -/
def weakAssign? (s : State) (slot : Key) (taint : TaintSet) (definition : String) :
    Result State := do
  let _ ← (s.taintOf (some slot)).unionAll? [taint]
  return s.weakAssign slot taint definition

/-- Adds a definition to a slot and leaves its taint alone. -/
def addDefinition (s : State) (slot : Key) (definition : String) : State :=
  { s with defs := s.defs.set slot ((s.defsOf (some slot)).insert definition) }

/-- Whether the taint of a slot would grow by another taint. -/
def taintGrows (s : State) (slot : Key) (taint : TaintSet) : Bool :=
  match s.taint.get? slot with
  | none => true
  | some current => !taint.isSubset current

def defsGrow (s : State) (slot : Key) (defs : Names) : Bool :=
  match s.defs.get? slot with
  | none => true
  | some current => !defs.isSubset current

/-- Whether joining `t` into `s` adds anything. -/
def grows (s t : State) : Bool :=
  t.taint.entries.any (fun (slot, taint) => s.taintGrows slot taint)
    || t.defs.entries.any (fun (slot, defs) => s.defsGrow slot defs)

def joinTaint (m : KeyMap TaintSet) (entry : Key × TaintSet) : KeyMap TaintSet :=
  match m.get? entry.1 with
  | none => m.set entry.1 entry.2
  | some current =>
    if entry.2.isSubset current then m else m.set entry.1 (current ∪ entry.2)

def joinDefs (m : KeyMap Names) (entry : Key × Names) : KeyMap Names :=
  match m.get? entry.1 with
  | none => m.set entry.1 entry.2
  | some current =>
    if entry.2.isSubset current then m else m.set entry.1 (current ∪ entry.2)

/-- The join of two states. A slot that gains nothing keeps its representatives. -/
def join (s t : State) : State :=
  ⟨t.taint.entries.foldl joinTaint s.taint, t.defs.entries.foldl joinDefs s.defs⟩

/-- The join of two states, if labels that meet in a slot that gains some can be compared. -/
def join? (s t : State) : Result State := do
  t.taint.entries.forM (fun (slot, taint) => do
    if s.taintGrows slot taint then
      let _ ← (s.taintOf (some slot)).unionAll? [taint])
  return s.join t

end State

end TaintFlow
