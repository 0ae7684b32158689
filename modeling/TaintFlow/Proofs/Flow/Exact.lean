import TaintFlow.Proofs.Flow.Inputs
import TaintFlow.Proofs.Flow.Worklist
import TaintFlow.Proofs.Result

/-!
# An analysis is the join over all paths

What an analysis keeps of a function is a collection of facts (`Fact`): which nodes are reached, which
definitions reach them, which labels stand in the arguments of sinks and calls, and what leaves the
function.  `Frame.Says` reads the facts off a record, `Frame.Yields` off the paths of control and the
composed transfers of their nodes alone.  The two agree whenever the worklist runs empty
(`Invariant.says_iff`), in whatever order it took its nodes; labels are compared by identity.
-/

namespace TaintFlow

/-- One thing that the analysis of a function may find. -/
inductive Fact where
  | reached (id : String)
  | defined (id : String) (slot : Slot) (definition : String)
  /-- A node is a call of a sink, with so many arguments. -/
  | sink (id api : String) (arity : Nat)
  | sinkArg (id : String) (index : Nat) (label : Identity)
  /-- A node is a call of a function of the program, with so many arguments. -/
  | call (id callee : String) (arity : Nat)
  | callArg (id : String) (index : Nat) (label : Identity)
  | callReceiver (id : String) (label : Identity)
  | exit (slot : Slot) (label : Identity)
  | exitDefined (slot : Slot) (definition : String)

namespace Frame

/-- The record of an analysis, its exit state and its observations, holds a fact. -/
def Says (frame : Frame) (exit : State) (seen : Observations) : Fact → Prop
  | .reached id => ∃ defs, seen.reaching.get? id = some defs
  | .defined id x d => ∃ defs, seen.reaching.get? id = some defs ∧ d ∈ defs.getD x ∅
  | .sink id api arity => ∃ o, seen.sinks.get? (frame.function.key id) = some o ∧
      o.node = id ∧ o.api = api ∧ o.args.length = arity
  | .sinkArg id index i => ∃ o, seen.sinks.get? (frame.function.key id) = some o ∧
      ∃ taint, o.args[index]? = some taint ∧ taint.has i = true
  | .call id callee arity => ∃ o, seen.calls.get? (frame.function.key id) = some o ∧
      o.callee = callee ∧ o.args.length = arity
  | .callArg id index i => ∃ o, seen.calls.get? (frame.function.key id) = some o ∧
      ∃ taint, o.args[index]? = some taint ∧ taint.has i = true
  | .callReceiver id i => ∃ o, seen.calls.get? (frame.function.key id) = some o ∧
      o.receiver.has i = true
  | .exit x i => exit.Carries x i
  | .exitDefined x d => exit.DefinedBy x d

def IsSink (frame : Frame) (n : Node) : Prop :=
  n.kind = .call ∧ (frame.rules.sink? n.api).isSome = true

def Calls (frame : Frame) (n : Node) (callee : String) : Prop :=
  n.kind = .call ∧ ∃ effect, frame.role n = .resolved callee effect

/-- Some path carries a label in a slot to a node. -/
def Brings (frame : Frame) (inputs : KeyMap TaintSet) (id : String) (x : Slot) (i : Identity) :
    Prop :=
  ∃ ids, frame.function.Path ids id ∧ (frame.arriving inputs ids).Carries x i

/-- The paths of control yield a fact. -/
def Yields (frame : Frame) (inputs : KeyMap TaintSet) : Fact → Prop
  | .reached id => frame.function.Reaches id
  | .defined id x d =>
    ∃ ids, frame.function.Path ids id ∧ (frame.arriving inputs ids).DefinedBy x d
  | .sink id api arity => frame.function.Reaches id ∧ ∃ n, frame.function.node? id = some n ∧
      frame.IsSink n ∧ n.api.asText = api ∧ n.argSlots.length = arity
  | .sinkArg id index i => ∃ n x, frame.function.node? id = some n ∧ frame.IsSink n ∧
      n.argSlots[index]? = some (some x) ∧ frame.Brings inputs id x i
  | .call id callee arity => frame.function.Reaches id ∧ ∃ n, frame.function.node? id = some n ∧
      frame.Calls n callee ∧ n.argSlots.length = arity
  | .callArg id index i => ∃ n x callee, frame.function.node? id = some n ∧ frame.Calls n callee ∧
      n.argSlots[index]? = some (some x) ∧ frame.Brings inputs id x i
  | .callReceiver id i => ∃ n x callee, frame.function.node? id = some n ∧ frame.Calls n callee ∧
      n.passedReceiver? = some x ∧ frame.Brings inputs id x i
  | .exit x i => ∃ ids id, frame.function.Path ids id ∧ frame.leavesAt id = true ∧
      (frame.arriving inputs (ids ++ [id])).Carries x i
  | .exitDefined x d => ∃ ids id, frame.function.Path ids id ∧ frame.leavesAt id = true ∧
      (frame.arriving inputs (ids ++ [id])).DefinedBy x d

/-! ### The states before and after the nodes -/

section Complete

variable {frame : Frame} {inputs : KeyMap TaintSet} {p : Progress}

/-- With nothing left to visit, every path has flowed into the node at its end. -/
theorem Invariant.within_of_path (h : frame.Invariant inputs p) (hqueue : p.queue = [])
    {ids : List String} {id : String} (hpath : frame.function.Path ids id) :
    ∃ s, p.before.get? id = some s ∧ (frame.arriving inputs ids).Within s := by
  induction hpath with
  | entry => exact h.entry
  | @step ids id succ n _ hnode hsucc ih =>
    obtain ⟨s, hs, hwithin⟩ := ih
    obtain ⟨m, hsettled⟩ := h.settled id s hs (by simp [hqueue])
    have hm : m = n := Option.some.inj (hsettled.node.symm.trans hnode)
    subst hm
    obtain ⟨t, ht, hout⟩ := hsettled.passed succ hsucc
    refine ⟨t, ht, ?_⟩
    rw [arriving_concat hnode]
    exact ((frame.describes_transfer id m).mono hwithin).trans hout

theorem Invariant.within_after_of_path (h : frame.Invariant inputs p) (hqueue : p.queue = [])
    {ids : List String} {id : String} (hpath : frame.function.Path ids id) :
    ∃ n s, frame.function.node? id = some n ∧ p.before.get? id = some s ∧
      (frame.arriving inputs (ids ++ [id])).Within (frame.transfer id n s) := by
  obtain ⟨s, hs, hwithin⟩ := h.within_of_path hqueue hpath
  obtain ⟨n, hn⟩ := h.settled id s hs (by simp [hqueue])
  refine ⟨n, s, hn.node, hs, ?_⟩
  rw [arriving_concat hn.node]
  exact (frame.describes_transfer id n).mono hwithin

theorem Invariant.exists_before_iff (h : frame.Invariant inputs p) (hqueue : p.queue = [])
    (id : String) : (∃ s, p.before.get? id = some s) ↔ frame.function.Reaches id := by
  constructor
  · rintro ⟨s, hs⟩
    exact (h.explained id s hs).reached
  · rintro ⟨ids, hpath⟩
    obtain ⟨s, hs, -⟩ := h.within_of_path hqueue hpath
    exact ⟨s, hs⟩

/-- The labels that stand before a node in the end are those that paths bring to it. -/
theorem Invariant.carries_before_iff (h : frame.Invariant inputs p) (hqueue : p.queue = [])
    (id : String) (x : Slot) (i : Identity) :
    (∃ s, p.before.get? id = some s ∧ s.Carries x i) ↔ frame.Brings inputs id x i := by
  constructor
  · rintro ⟨s, hs, hc⟩
    exact (h.explained id s hs).carries x i hc
  · rintro ⟨ids, hpath, hc⟩
    obtain ⟨s, hs, hwithin⟩ := h.within_of_path hqueue hpath
    exact ⟨s, hs, hwithin.1 x i hc⟩

theorem Invariant.definedBy_before_iff (h : frame.Invariant inputs p) (hqueue : p.queue = [])
    (id : String) (x : Slot) (d : String) :
    (∃ s, p.before.get? id = some s ∧ s.DefinedBy x d) ↔
      ∃ ids, frame.function.Path ids id ∧ (frame.arriving inputs ids).DefinedBy x d := by
  constructor
  · rintro ⟨s, hs, hd⟩
    exact (h.explained id s hs).definedBy x d hd
  · rintro ⟨ids, hpath, hd⟩
    obtain ⟨s, hs, hwithin⟩ := h.within_of_path hqueue hpath
    exact ⟨s, hs, hwithin.2 x d hd⟩

/-- Every node that is reached has been visited last in the state that is before it in the end. -/
theorem Invariant.settled_of_reaches (h : frame.Invariant inputs p) (hqueue : p.queue = [])
    {id : String} (hreach : frame.function.Reaches id) :
    ∃ n s, p.before.get? id = some s ∧ frame.Settled p id n s := by
  obtain ⟨s, hs⟩ := (h.exists_before_iff hqueue id).2 hreach
  obtain ⟨n, hn⟩ := h.settled id s hs (by simp [hqueue])
  exact ⟨n, s, hs, hn⟩

theorem Invariant.unseen_of_not_reaches (h : frame.Invariant inputs p) (hqueue : p.queue = [])
    {id : String} (hreach : ¬ frame.function.Reaches id) : frame.Unseen id p.seen := by
  refine h.unseen id ?_
  cases ha : p.after.get? id with
  | none => rfl
  | some out => exact absurd ((h.exists_before_iff hqueue id).1 (h.visited id out ha)) hreach

/-! ### The state at the end -/

theorem carries_foldl_join {l : List (String × State)} {s : State} {x : Slot} {i : Identity} :
    (l.foldl (fun s (_, out) => s.join out) s).Carries x i ↔
      s.Carries x i ∨ ∃ entry ∈ l, entry.2.Carries x i := by
  induction l generalizing s with
  | nil => simp
  | cons entry rest ih =>
    rw [List.foldl_cons, ih, State.carries_join, List.exists_mem_cons_iff, or_assoc]

theorem definedBy_foldl_join {l : List (String × State)} {s : State} {x : Slot} {d : String} :
    (l.foldl (fun s (_, out) => s.join out) s).DefinedBy x d ↔
      s.DefinedBy x d ∨ ∃ entry ∈ l, entry.2.DefinedBy x d := by
  induction l generalizing s with
  | nil => simp
  | cons entry rest ih =>
    rw [List.foldl_cons, ih, State.definedBy_join, List.exists_mem_cons_iff, or_assoc]

theorem carries_exitState_iff {x : Slot} {i : Identity} : (frame.exitState p).Carries x i ↔
    ∃ id out, p.after.get? id = some out ∧ frame.leavesAt id = true ∧ out.Carries x i := by
  rw [exitState, carries_foldl_join]
  simp only [State.not_carries_empty, false_or, List.mem_filter, Prod.exists,
    Table.mem_entries_iff, and_assoc]

theorem definedBy_exitState_iff {x : Slot} {d : String} : (frame.exitState p).DefinedBy x d ↔
    ∃ id out, p.after.get? id = some out ∧ frame.leavesAt id = true ∧ out.DefinedBy x d := by
  rw [exitState, definedBy_foldl_join]
  simp only [State.not_definedBy_empty, false_or, List.mem_filter, Prod.exists,
    Table.mem_entries_iff, and_assoc]

/-! ### The records of the nodes -/

theorem sinkAt_eq_some_iff {id : String} {n : Node} {s : State} {o : SinkObservation} :
    frame.sinkAt id n s = some o ↔ frame.IsSink n ∧ o = ⟨id, n.api.asText, n.argTaint s⟩ := by
  unfold sinkAt IsSink
  by_cases hkind : n.kind = .call
  · cases frame.rules.sink? n.api <;> simp [hkind, eq_comm]
  · simp [hkind]

theorem callAt_eq_some_iff {n : Node} {s : State} {o : CallObservation} :
    frame.callAt n s = some o ↔
      ∃ callee, frame.Calls n callee ∧ o = ⟨callee, n.argTaint s, n.receiverTaint s⟩ := by
  unfold callAt Calls
  by_cases hkind : n.kind = .call
  · cases frame.role n <;> simp [hkind, eq_comm]
  · simp [hkind]

theorem exists_argTaint_iff {n : Node} {s : State} {index : Nat} {i : Identity} :
    (∃ taint, (n.argTaint s)[index]? = some taint ∧ taint.has i = true) ↔
      ∃ x, n.argSlots[index]? = some (some x) ∧ s.Carries x i := by
  rw [Node.argTaint, List.getElem?_map]
  cases n.argSlots[index]? with
  | none => simp
  | some slot => cases slot <;> simp [State.Carries, State.taintOf]

theorem has_receiverTaint_iff {n : Node} {s : State} {i : Identity} :
    (n.receiverTaint s).has i = true ↔ ∃ x, n.passedReceiver? = some x ∧ s.Carries x i := by
  rw [Node.receiverTaint_eq, State.has_taintOf_iff]

theorem Invariant.reaching_iff (h : frame.Invariant inputs p) (hqueue : p.queue = [])
    {id : String} {defs : KeyMap Names} : p.seen.reaching.get? id = some defs ↔
      ∃ s, p.before.get? id = some s ∧ s.defs = defs := by
  by_cases hreach : frame.function.Reaches id
  · obtain ⟨n, s, hs, hn⟩ := h.settled_of_reaches hqueue hreach
    rw [hn.records.reaching, hs]
    simp
  · rw [(h.unseen_of_not_reaches hqueue hreach).reaching]
    refine iff_of_false (by simp) ?_
    rintro ⟨s, hs, -⟩
    exact hreach ((h.exists_before_iff hqueue id).1 ⟨s, hs⟩)

theorem Invariant.sinks_iff (h : frame.Invariant inputs p) (hqueue : p.queue = [])
    {id : String} {o : SinkObservation} : p.seen.sinks.get? (frame.function.key id) = some o ↔
      ∃ n s, frame.function.node? id = some n ∧ p.before.get? id = some s ∧ frame.IsSink n ∧
        o = ⟨id, n.api.asText, n.argTaint s⟩ := by
  by_cases hreach : frame.function.Reaches id
  · obtain ⟨n, s, hs, hn⟩ := h.settled_of_reaches hqueue hreach
    rw [hn.records.sinks, sinkAt_eq_some_iff, hs, hn.node]
    simp
  · rw [(h.unseen_of_not_reaches hqueue hreach).sinks]
    refine iff_of_false (by simp) ?_
    rintro ⟨n, s, -, hs, -⟩
    exact hreach ((h.exists_before_iff hqueue id).1 ⟨s, hs⟩)

theorem Invariant.calls_iff (h : frame.Invariant inputs p) (hqueue : p.queue = [])
    {id : String} {o : CallObservation} : p.seen.calls.get? (frame.function.key id) = some o ↔
      ∃ n s callee, frame.function.node? id = some n ∧ p.before.get? id = some s ∧
        frame.Calls n callee ∧ o = ⟨callee, n.argTaint s, n.receiverTaint s⟩ := by
  by_cases hreach : frame.function.Reaches id
  · obtain ⟨n, s, hs, hn⟩ := h.settled_of_reaches hqueue hreach
    rw [hn.records.calls, callAt_eq_some_iff, hs, hn.node]
    simp
  · rw [(h.unseen_of_not_reaches hqueue hreach).calls]
    refine iff_of_false (by simp) ?_
    rintro ⟨n, s, callee, -, hs, -⟩
    exact hreach ((h.exists_before_iff hqueue id).1 ⟨s, hs⟩)

/-- A node at which control leaves has a state after it exactly when it is reached, namely the one
that its transfer makes of the state before it. -/
theorem Invariant.after_iff (h : frame.Invariant inputs p) (hqueue : p.queue = []) {id : String}
    {out : State} : p.after.get? id = some out ↔
      ∃ n s, frame.function.node? id = some n ∧ p.before.get? id = some s ∧
        out = frame.transfer id n s := by
  constructor
  · intro ha
    obtain ⟨s, hs⟩ := h.visited id out ha
    obtain ⟨n, hn⟩ := h.settled id s hs (by simp [hqueue])
    rw [hn.after, Option.some.injEq] at ha
    exact ⟨n, s, hn.node, hs, ha.symm⟩
  · rintro ⟨n, s, hnode, hs, rfl⟩
    obtain ⟨m, hm⟩ := h.settled id s hs (by simp [hqueue])
    have hmn : m = n := Option.some.inj (hm.node.symm.trans hnode)
    subst hmn
    exact hm.after

/-- **The state at the end is what the paths carry out of the function.** -/
theorem Invariant.carries_exitState_iff (h : frame.Invariant inputs p) (hqueue : p.queue = [])
    (x : Slot) (i : Identity) : (frame.exitState p).Carries x i ↔
      ∃ ids id, frame.function.Path ids id ∧ frame.leavesAt id = true ∧
        (frame.arriving inputs (ids ++ [id])).Carries x i := by
  rw [Frame.carries_exitState_iff]
  constructor
  · rintro ⟨id, out, ha, hleaves, hc⟩
    obtain ⟨n, s, hnode, hs, rfl⟩ := (h.after_iff hqueue).1 ha
    obtain ⟨ids, hpath, hc⟩ := (h.explained id s hs).carries_transfer hnode hc
    exact ⟨ids, id, hpath, hleaves, hc⟩
  · rintro ⟨ids, id, hpath, hleaves, hc⟩
    obtain ⟨n, s, hnode, hs, hwithin⟩ := h.within_after_of_path hqueue hpath
    exact ⟨id, _, (h.after_iff hqueue).2 ⟨n, s, hnode, hs, rfl⟩, hleaves, hwithin.1 x i hc⟩

theorem Invariant.definedBy_exitState_iff (h : frame.Invariant inputs p) (hqueue : p.queue = [])
    (x : Slot) (d : String) : (frame.exitState p).DefinedBy x d ↔
      ∃ ids id, frame.function.Path ids id ∧ frame.leavesAt id = true ∧
        (frame.arriving inputs (ids ++ [id])).DefinedBy x d := by
  rw [Frame.definedBy_exitState_iff]
  constructor
  · rintro ⟨id, out, ha, hleaves, hd⟩
    obtain ⟨n, s, hnode, hs, rfl⟩ := (h.after_iff hqueue).1 ha
    obtain ⟨ids, hpath, hd⟩ := (h.explained id s hs).definedBy_transfer hnode hd
    exact ⟨ids, id, hpath, hleaves, hd⟩
  · rintro ⟨ids, id, hpath, hleaves, hd⟩
    obtain ⟨n, s, hnode, hs, hwithin⟩ := h.within_after_of_path hqueue hpath
    exact ⟨id, _, (h.after_iff hqueue).2 ⟨n, s, hnode, hs, rfl⟩, hleaves, hwithin.2 x d hd⟩

/-- **The record of a worklist that ran empty holds exactly the facts that the paths yield.** -/
theorem Invariant.says_iff (h : frame.Invariant inputs p) (hqueue : p.queue = []) (fact : Fact) :
    frame.Says (frame.exitState p) p.seen fact ↔ frame.Yields inputs fact := by
  cases fact with
  | reached id =>
    simp only [Says, Yields, h.reaching_iff hqueue, ← h.exists_before_iff hqueue]
    constructor
    · rintro ⟨defs, s, hs, -⟩
      exact ⟨s, hs⟩
    · rintro ⟨s, hs⟩
      exact ⟨s.defs, s, hs, rfl⟩
  | defined id x d =>
    simp only [Says, Yields, h.reaching_iff hqueue, ← h.definedBy_before_iff hqueue]
    constructor
    · rintro ⟨defs, ⟨s, hs, rfl⟩, hd⟩
      exact ⟨s, hs, hd⟩
    · rintro ⟨s, hs, hd⟩
      exact ⟨s.defs, ⟨s, hs, rfl⟩, hd⟩
  | sink id api arity =>
    simp only [Says, Yields, h.sinks_iff hqueue, ← h.exists_before_iff hqueue]
    constructor
    · rintro ⟨o, ⟨n, s, hnode, hs, hsink, rfl⟩, -, rfl, rfl⟩
      exact ⟨⟨s, hs⟩, n, hnode, hsink, rfl, (List.length_map _).symm⟩
    · rintro ⟨⟨s, hs⟩, n, hnode, hsink, rfl, rfl⟩
      exact ⟨_, ⟨n, s, hnode, hs, hsink, rfl⟩, rfl, rfl, List.length_map _⟩
  | sinkArg id index i =>
    simp only [Says, Yields, h.sinks_iff hqueue, ← h.carries_before_iff hqueue]
    constructor
    · rintro ⟨o, ⟨n, s, hnode, hs, hsink, rfl⟩, harg⟩
      obtain ⟨x, hx, hc⟩ := exists_argTaint_iff.1 harg
      exact ⟨n, x, hnode, hsink, hx, s, hs, hc⟩
    · rintro ⟨n, x, hnode, hsink, hx, s, hs, hc⟩
      exact ⟨_, ⟨n, s, hnode, hs, hsink, rfl⟩, exists_argTaint_iff.2 ⟨x, hx, hc⟩⟩
  | call id callee arity =>
    simp only [Says, Yields, h.calls_iff hqueue, ← h.exists_before_iff hqueue]
    constructor
    · rintro ⟨o, ⟨n, s, callee, hnode, hs, hcall, rfl⟩, rfl, rfl⟩
      exact ⟨⟨s, hs⟩, n, hnode, hcall, (List.length_map _).symm⟩
    · rintro ⟨⟨s, hs⟩, n, hnode, hcall, rfl⟩
      exact ⟨_, ⟨n, s, callee, hnode, hs, hcall, rfl⟩, rfl, List.length_map _⟩
  | callArg id index i =>
    simp only [Says, Yields, h.calls_iff hqueue, ← h.carries_before_iff hqueue]
    constructor
    · rintro ⟨o, ⟨n, s, callee, hnode, hs, hcall, rfl⟩, harg⟩
      obtain ⟨x, hx, hc⟩ := exists_argTaint_iff.1 harg
      exact ⟨n, x, callee, hnode, hcall, hx, s, hs, hc⟩
    · rintro ⟨n, x, callee, hnode, hcall, hx, s, hs, hc⟩
      exact ⟨_, ⟨n, s, callee, hnode, hs, hcall, rfl⟩, exists_argTaint_iff.2 ⟨x, hx, hc⟩⟩
  | callReceiver id i =>
    simp only [Says, Yields, h.calls_iff hqueue, ← h.carries_before_iff hqueue]
    constructor
    · rintro ⟨o, ⟨n, s, callee, hnode, hs, hcall, rfl⟩, hi⟩
      obtain ⟨x, hx, hc⟩ := has_receiverTaint_iff.1 hi
      exact ⟨n, x, callee, hnode, hcall, hx, s, hs, hc⟩
    · rintro ⟨n, x, callee, hnode, hcall, hx, s, hs, hc⟩
      exact ⟨_, ⟨n, s, callee, hnode, hs, hcall, rfl⟩, has_receiverTaint_iff.2 ⟨x, hx, hc⟩⟩
  | exit x i => exact h.carries_exitState_iff hqueue x i
  | exitDefined x d => exact h.definedBy_exitState_iff hqueue x d

/-! ### The loop of the analysis -/

/-- The loop takes its nodes in one of the orders in which a worklist may take them. -/
theorem visits_of_loop {budget : Amount} {fuel : Nat} {p q : Progress}
    (h : frame.loop budget fuel p = .ok q) :
    Relation.ReflTransGen frame.Visits p q ∧ q.queue = [] := by
  induction fuel generalizing p with
  | zero =>
    unfold loop at h
    split at h
    · next hqueue =>
      cases h
      exact ⟨.refl, hqueue⟩
    · cases h
  | succ fuel ih =>
    unfold loop at h
    split at h
    · next hqueue =>
      cases h
      exact ⟨.refl, hqueue⟩
    · next id rest hqueue =>
      dsimp only at h
      split at h
      · cases h
      · next n hnode =>
        split at h
        · cases h
        · obtain ⟨hvisits, hempty⟩ := ih h
          refine ⟨.head ⟨id, n, ?_, hnode, ?_⟩ hvisits, hempty⟩
          · rw [hqueue]
            exact List.mem_cons_self
          · rw [hqueue, List.erase_cons_head]

theorem analyze_eq_ok {maxVisits : Amount} {a : Analysis}
    (h : frame.analyze maxVisits inputs = .ok a) :
    ∃ p, frame.Completes inputs p ∧ a = frame.finish p := by
  unfold analyze at h
  split at h
  · cases hloop : frame.loop (frame.budget maxVisits)
        ((frame.budget maxVisits).bound?.getD ampleVisits) (frame.start inputs) with
    | error fault =>
      simp only [hloop] at h
      cases h
    | ok p =>
      simp only [hloop] at h
      exact ⟨p, visits_of_loop hloop, (Except.ok.inj h).symm⟩
  · cases h

theorem globals_of_analyze {visits : Amount} {a : Analysis} (h : frame.analyze visits inputs = .ok a) :
    a.globals = frame.function.globalsIn frame.globals := by
  obtain ⟨p, -, rfl⟩ := analyze_eq_ok h
  rfl

theorem says_finish_iff (fact : Fact) : frame.Says (frame.finish p).exit (frame.finish p).seen fact ↔
    frame.Says (frame.exitState p) p.seen fact := by
  cases fact <;> exact Iff.rfl

/-- An analysis says what the paths yield, and speaks of nodes of the function only. -/
theorem says_of_analyze {visits : Amount} {a : Analysis} (h : frame.analyze visits inputs = .ok a) :
    (∀ fact, frame.Says a.exit a.seen fact ↔ frame.Yields inputs fact) ∧
      ∀ key call, a.seen.calls.get? key = some call → ∃ id, key = frame.function.key id := by
  obtain ⟨q, hq, rfl⟩ := analyze_eq_ok h
  have hinv := invariant_of_visits hq.1
  refine ⟨fun fact => (says_finish_iff fact).trans (hinv.says_iff hq.2 fact), fun key call hcall => ?_⟩
  by_contra hnot
  have hnone := (hinv.keyed key fun id he => hnot ⟨id, he⟩).2
  have hsame : (frame.finish q).seen.calls = q.seen.calls := rfl
  rw [hsame, hnone] at hcall
  cases hcall

end Complete

/-- **An analysis that comes to an end is exact.**  It holds just the facts that the paths of control
yield, keeps observations of nodes of the function only, and any other order of visits that empties
the worklist ends with the same facts. -/
theorem analyze_exact (frame : Frame) (maxVisits : Amount) (inputs : KeyMap TaintSet) (a : Analysis)
    (h : frame.analyze maxVisits inputs = .ok a) :
    (∀ fact, frame.Says a.exit a.seen fact ↔ frame.Yields inputs fact) ∧
      (∀ key, (∀ id, key ≠ frame.function.key id) →
        a.seen.sinks.get? key = none ∧ a.seen.calls.get? key = none) ∧
      ∀ p, frame.Completes inputs p → ∀ fact,
        frame.Says a.exit a.seen fact ↔ frame.Says (frame.exitState p) p.seen fact := by
  obtain ⟨q, hq, rfl⟩ := analyze_eq_ok h
  have hinv := invariant_of_visits hq.1
  have hexact : ∀ fact, frame.Says (frame.finish q).exit (frame.finish q).seen fact ↔
      frame.Yields inputs fact :=
    fun fact => (says_finish_iff fact).trans (hinv.says_iff hq.2 fact)
  refine ⟨hexact, hinv.keyed, ?_⟩
  intro p hp fact
  exact (hexact fact).trans ((invariant_of_visits hp.1).says_iff hp.2 fact).symm

end Frame

/-! ### A loop -/

def Node.bare (kind : NodeKind) (succ : List String) : Node where
  kind := kind
  succ := succ
  target := .null
  operands := []
  embeds := ∅
  operator := .null
  api := .null
  callee := .null
  dynamic := false
  args := []
  receiver := .null
  enclosing := ∅
  line := 0
  file := .null

def Function.bare (id entry : String) (params : List String) (nodes : List (String × Node)) :
    Function where
  id := id
  nodes := .ofList nodes
  entry := entry
  params := params.map (fun name => ⟨name, none, false, none⟩)
  receiver := .null
  entryPoint := false
  file := .null

/-- Collects `x` in `y`, again and again, and returns `y`. -/
def collector : Frame where
  function := .bare "f" "collect" ["x"]
    [("collect", { Node.bare .assign ["collect", "end"] with
        target := .text "y", operands := ["x", "y"] }),
      ("end", { Node.bare .ret [] with operands := ["y"] })]
  rules := .empty ∅
  effects _ := none
  globals := ∅
  known := .singleton "f"

/-- The analysis of the loop ends, and it finds the parameter in the result: so some path around the
loop carries it there. -/
theorem exists_path_collector : ∃ a,
    collector.analyze (.whole 5) (collector.function.symbolicInputs ∅) = .ok a ∧
      collector.Yields (collector.function.symbolicInputs ∅)
        (.exit (.text returnSlot) (markerIdentity (paramMarker 0))) := by
  obtain ⟨a, ha, hfound⟩ := Result.exists_ok_of_any
    (r := collector.analyze (.whole 5) (collector.function.symbolicInputs ∅))
    (p := fun a => (a.exit.taintOf (some (.text returnSlot))).has (markerIdentity (paramMarker 0)))
    (by decide +kernel)
  exact ⟨a, ha, ((collector.analyze_exact _ _ a ha).1 _).1 hfound⟩

end TaintFlow
