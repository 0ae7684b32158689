import TaintFlow.Flow.Analysis
import TaintFlow.Proofs.Collection

/-!
# What an analysis sees of a function

Positions, operators, placements and the mark of an entry point play no part in an analysis, and of a
value with parts it sees only whether there are any.  So the analysis of a function is the analysis of
its core (`analyze_core`).
-/

namespace TaintFlow

namespace Document

/-- Of a value with parts, whether it has any. -/
def outline : Document → Document
  | .list items => .list (if items.isEmpty then [] else [.null])
  | .object fields => .object (if fields.isEmpty then [] else [("", .null)])
  | d => d

@[simp] theorem isTruthy_outline (d : Document) : d.outline.isTruthy = d.isTruthy := by
  cases d with
  | list items => cases items <;> rfl
  | object fields => cases fields <;> rfl
  | _ => rfl

@[simp] theorem key?_outline (d : Document) : d.outline.key? = d.key? := by
  cases d <;> rfl

@[simp] theorem isNull_outline (d : Document) : d.outline.isNull = d.isNull := by
  cases d <;> rfl

@[simp] theorem slot?_outline (d : Document) : d.outline.slot? = d.slot? := by
  simp [slot?]

@[simp] theorem isName_outline (d : Document) : d.outline.isName = d.isName := by
  simp [isName]

theorem outline_eq_text_iff {d : Document} {s : String} : d.outline = .text s ↔ d = .text s := by
  cases d <;> simp [outline]

theorem outline_of_key? {d : Document} {key : Key} (h : d.key? = some key) : d.outline = d := by
  cases d with
  | list items => cases h
  | object fields => cases h
  | _ => rfl

end Document

namespace Node

/-- What an analysis sees of a node. -/
def core (n : Node) : Node :=
  { n with
    target := n.target.outline
    embeds := ∅
    operator := .null
    api := n.api.outline
    callee := n.callee.outline
    receiver := n.receiver.outline
    enclosing := ∅
    line := 0
    file := .null }

variable (n : Node) (s : State)

@[simp] theorem receiverSlot?_core : n.core.receiverSlot? = n.receiverSlot? :=
  Document.slot?_outline n.receiver

@[simp] theorem targetSlot?_core : n.core.targetSlot? = n.targetSlot? :=
  Document.slot?_outline n.target

theorem reads_core : n.core.reads = n.reads := by
  unfold reads
  rw [receiverSlot?_core]
  rfl

@[simp] theorem isSearchable_core : n.core.isSearchable = n.isSearchable := by
  unfold isSearchable core
  rw [Document.isName_outline, Document.isName_outline]

@[simp] theorem receiverTaint_core : n.core.receiverTaint s = n.receiverTaint s := by
  simp [receiverTaint, core]

@[simp] theorem inputTaint_core : n.core.inputTaint s = n.inputTaint s := by
  unfold inputTaint
  rw [receiverSlot?_core]
  rfl

@[simp] theorem assignResult_core (taint : TaintSet) (key : String) :
    n.core.assignResult s taint key = n.assignResult s taint key := by
  unfold assignResult
  rw [targetSlot?_core]

@[simp] theorem passedTaint_core (input : String) :
    n.core.passedTaint s input = n.passedTaint s input := by
  unfold passedTaint
  rw [receiverTaint_core]
  rfl

theorem readEdges_core (kind : EdgeKind) (key : String) :
    n.core.readEdges kind key s = n.readEdges kind key s := by
  unfold readEdges
  rw [reads_core]

theorem callEdges_core (key callee : String) :
    n.core.callEdges key callee s = n.callEdges key callee s := by
  unfold callEdges
  rw [receiverSlot?_core]
  rfl

end Node

namespace Effect

variable (e : Effect) (n : Node) (s : State) (key : String)

theorem carried_core (t : Transfer) : carried n.core s key t = carried n s key t := by
  unfold carried
  simp only [Node.passedTaint_core]

theorem outputs_core : e.outputs n.core s key = e.outputs n s key := by
  unfold outputs delivered
  simp only [carried_core]

theorem apply_core (globals : Names) : e.apply globals n.core s key = e.apply globals n s key := by
  simp only [apply, outputs_core, Node.assignResult_core]
  rfl

theorem fault?_core : e.fault? n.core s key = e.fault? n s key := by
  unfold fault?
  rw [outputs_core]
  rfl

end Effect

namespace Function

def core (f : Function) : Function :=
  { f with
    nodes := f.nodes.mapValues Node.core
    receiver := if f.receiver.isTruthy then f.receiver.outline else .null
    entryPoint := false
    file := .null }

variable (f : Function)

theorem node?_core (id : String) : f.core.node? id = (f.node? id).map Node.core :=
  lookup_map_snd Node.core f.nodes.entries id

theorem values_core : f.core.nodes.values = f.nodes.values.map Node.core := by
  simp [core, Table.values, Table.mapValues]

@[simp] theorem receiverSlot?_core : f.core.receiverSlot? = f.receiverSlot? := by
  have hcore : f.core.receiver = if f.receiver.isTruthy then f.receiver.outline else .null := rfl
  rw [receiverSlot?, hcore]
  split
  · exact Document.slot?_outline f.receiver
  · next habsent => exact (if_neg habsent).symm

theorem slots_core : f.core.slots = f.slots := by
  unfold slots
  rw [receiverSlot?_core, values_core, List.flatMap_map]
  simp only [Node.reads_core, Node.targetSlot?_core]
  rfl

theorem globalsIn_core (globals : Names) : f.core.globalsIn globals = f.globalsIn globals := by
  unfold globalsIn
  rw [slots_core]

theorem isSearchable_core : f.core.isSearchable = f.isSearchable := by
  have hcore : f.core.receiver = if f.receiver.isTruthy then f.receiver.outline else .null := rfl
  have hreceiver : f.core.receiver.isName = f.receiver.isName := by
    rw [hcore]
    split
    · exact Document.isName_outline f.receiver
    · next habsent =>
      have hnull : Document.null.isName = true := rfl
      rw [hnull, Document.isName, (Bool.not_eq_true _).mp habsent]
      rfl
  unfold isSearchable
  rw [values_core, List.all_map, hreceiver]
  simp only [Function.comp_def, Node.isSearchable_core]

theorem symbolicInputs_core (globals : Names) :
    f.core.symbolicInputs globals = f.symbolicInputs globals := by
  unfold symbolicInputs
  rw [receiverSlot?_core, globalsIn_core]
  rfl

end Function

namespace Frame

variable (frame : Frame)

def core : Frame := { frame with function := frame.function.core }

theorem lookup_outline {α : Type} (rules : KeyMap α) (api : Document) :
    Registry.lookup rules api.outline = Registry.lookup rules api := by
  simp [Registry.lookup]

theorem calleeOf_core (n : Node) : frame.core.calleeOf n.core = frame.calleeOf n := by
  unfold calleeOf Node.core
  cases n.callee <;> rfl

theorem role_core (n : Node) : frame.core.role n.core = frame.role n := by
  have hsource : frame.core.rules.source? n.core.api = frame.rules.source? n.api :=
    lookup_outline _ _
  have hsanitizer : frame.core.rules.isSanitizer n.core.api = frame.rules.isSanitizer n.api := by
    unfold Registry.isSanitizer Registry.sanitizersOf
    rw [show n.core.api = n.api.outline from rfl, lookup_outline]
    rfl
  unfold role
  rw [hsource, hsanitizer, calleeOf_core]
  rfl

theorem transfer_core (id : String) (n : Node) (s : State) :
    frame.core.transfer id n.core s = frame.transfer id n s := by
  unfold transfer transferCall
  rw [role_core]
  simp only [Node.inputTaint_core, Node.assignResult_core, Effect.apply_core]
  rw [show n.core.target.key? = n.target.key? from Document.key?_outline _]
  rfl

theorem fault?_core (id : String) (n : Node) (s : State) :
    frame.core.fault? id n.core s = frame.fault? id n s := by
  unfold fault? callFault?
  rw [role_core, show n.core.target.key? = n.target.key? from Document.key?_outline _,
    show n.core.api.isName = n.api.isName from Document.isName_outline _,
    show n.core.receiver.key? = n.receiver.key? from Document.key?_outline _,
    show n.core.callee.key? = n.callee.key? from Document.key?_outline _]
  simp only [Effect.fault?_core]
  rfl

theorem observeSink_core (id key : String) (n : Node) (s : State) (o : Observations) :
    frame.core.observeSink id key n.core s o = frame.observeSink id key n s o := by
  have hsink : frame.core.rules.sink? n.core.api = frame.rules.sink? n.api := lookup_outline _ _
  unfold observeSink
  rw [hsink]
  cases hrule : frame.rules.sink? n.api with
  | none => rfl
  | some rule =>
    -- a rule is found by a key, and what has a key has no parts
    obtain ⟨key, hkey⟩ : ∃ key, n.api.key? = some key := by
      unfold Registry.sink? Registry.lookup at hrule
      split at hrule
      · obtain ⟨key, hkey, -⟩ := Option.bind_eq_some_iff.1 hrule
        exact ⟨key, hkey⟩
      · cases hrule
    have hapi : n.core.api = n.api := Document.outline_of_key? hkey
    dsimp only
    rw [hapi]
    rfl

theorem observeCall_core (id key : String) (n : Node) (s : State) (o : Observations) :
    frame.core.observeCall id key n.core s o = frame.observeCall id key n s o := by
  have hsink : frame.core.rules.sink? n.core.api = frame.rules.sink? n.api := lookup_outline _ _
  unfold observeCall
  rw [observeSink_core, role_core, hsink]
  simp only [Node.readEdges_core, Node.callEdges_core, Node.receiverTaint_core]
  rfl

theorem observe_core (id : String) (n : Node) (s : State) (o : Observations) :
    frame.core.observe id n.core s o = frame.observe id n s o := by
  unfold observe
  simp only [observeCall_core]
  rfl

theorem visit_core (p : Progress) (id : String) (n : Node) :
    frame.core.visit p id n.core = frame.visit p id n := by
  unfold visit
  simp only [transfer_core, observe_core]
  rfl

theorem loop_core (budget : Amount) (fuel : Nat) (p : Progress) :
    frame.core.loop budget fuel p = frame.loop budget fuel p := by
  induction fuel generalizing p with
  | zero =>
    unfold loop
    cases p.queue <;> rfl
  | succ fuel ih =>
    unfold loop
    cases p.queue with
    | nil => rfl
    | cons id queue =>
      dsimp only
      have hnode : frame.core.function.node? id = (frame.function.node? id).map Node.core :=
        frame.function.node?_core id
      rw [hnode]
      cases frame.function.node? id with
      | none => rfl
      | some n =>
        rw [Option.map_some]
        dsimp only
        rw [fault?_core]
        cases frame.fault? id n (p.before.getD id .empty) with
        | some fault => rfl
        | none =>
          dsimp only
          rw [visit_core]
          exact ih _

theorem globalsRead_core : frame.core.globalsRead = frame.globalsRead :=
  frame.function.globalsIn_core frame.globals

theorem entryState_core (inputs : KeyMap TaintSet) :
    frame.core.entryState inputs = frame.entryState inputs := by
  have hreceiver : frame.core.function.receiverSlot? = frame.function.receiverSlot? :=
    frame.function.receiverSlot?_core
  simp only [entryState, globalsRead_core, hreceiver]
  rfl

theorem leavesAt_core (id : String) : frame.core.leavesAt id = frame.leavesAt id := by
  unfold leavesAt
  rw [show frame.core.function.node? id = (frame.function.node? id).map Node.core from
    frame.function.node?_core id]
  cases frame.function.node? id <;> rfl

theorem finish_core (p : Progress) : frame.core.finish p = frame.finish p := by
  have hexit : frame.core.exitState p = frame.exitState p := by
    unfold exitState
    simp only [leavesAt_core]
  unfold finish globalEdges
  rw [hexit, globalsRead_core]
  rfl

/-- **An analysis sees the core of its function only.** -/
theorem analyze_core (maxVisits : Amount) (inputs : KeyMap TaintSet) :
    frame.core.analyze maxVisits inputs = frame.analyze maxVisits inputs := by
  have hsearchable : frame.core.function.isSearchable = frame.function.isSearchable :=
    frame.function.isSearchable_core
  have hstart : frame.core.start inputs = frame.start inputs := by
    unfold start
    rw [entryState_core]
    rfl
  have hbudget : frame.core.budget maxVisits = frame.budget maxVisits := by
    simp [budget, core, Function.core, Table.size, Table.mapValues]
  unfold analyze
  rw [hsearchable, hstart, hbudget]
  simp only [loop_core, finish_core]

end Frame

end TaintFlow
