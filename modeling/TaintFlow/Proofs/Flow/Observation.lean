import TaintFlow.Flow.Observation
import TaintFlow.Proofs.State

/-!
# What a visit of a node records

A visit overwrites what an earlier visit of the same node recorded and leaves the records of all other
nodes alone.  Whether a node records sink arguments or a call at all is settled by the node, so after
a visit exactly the records of that visit stand (`records_observe`, `Records.observe_other`).
-/

namespace TaintFlow

namespace Frame

theorem key_injective (f : Function) {id other : String} (h : f.key id = f.key other) :
    id = other := by
  have h : f.id ++ keySeparator ++ id = f.id ++ keySeparator ++ other := h
  simpa using h

/-- The arguments that a visit of a node records for a sink. -/
def sinkAt (frame : Frame) (id : String) (n : Node) (s : State) : Option SinkObservation :=
  if n.kind = .call then (frame.rules.sink? n.api).map (fun _ => ⟨id, n.api.asText, n.argTaint s⟩)
  else none

def callAt (frame : Frame) (n : Node) (s : State) : Option CallObservation :=
  if n.kind = .call then
    match frame.role n with
    | .resolved callee _ => some ⟨callee, n.argTaint s, n.receiverTaint s⟩
    | _ => none
  else none

theorem reaching_observe (frame : Frame) (id : String) (n : Node) (s : State) (o : Observations) :
    (frame.observe id n s o).reaching = o.reaching.set id s.defs := by
  unfold observe
  cases n.kind with
  | assign =>
    unfold observeTainted
    dsimp only
    split <;> rfl
  | call =>
    unfold observeCall observeSink
    dsimp only
    cases frame.role n <;> cases frame.rules.sink? n.api <;> rfl
  | ret => rfl
  | branch => rfl
  | nop => rfl

theorem get?_sinks_observe (frame : Frame) (id : String) (n : Node) (s : State) (o : Observations)
    (key : String) : (frame.observe id n s o).sinks.get? key =
      if key = frame.function.key id then (frame.sinkAt id n s).or (o.sinks.get? key)
      else o.sinks.get? key := by
  unfold observe sinkAt
  cases n.kind with
  | assign =>
    unfold observeTainted
    dsimp only
    split <;> simp [Observations.addEdges]
  | call =>
    have hsink : ∀ o : Observations,
        (frame.observeSink id (frame.function.key id) n s o).sinks.get? key =
          if key = frame.function.key id then
            ((frame.rules.sink? n.api).map
              (fun _ => (⟨id, n.api.asText, n.argTaint s⟩ : SinkObservation))).or (o.sinks.get? key)
          else o.sinks.get? key := by
      intro o
      unfold observeSink
      cases frame.rules.sink? n.api with
      | none => simp
      | some rule =>
        simp only [Observations.addEdges, OrderedMap.get?_set]
        split <;> rfl
    unfold observeCall
    dsimp only
    cases frame.role n with
    | unresolved =>
      dsimp only
      split <;> exact hsink _
    | _ => exact hsink _
  | ret => simp [Observations.addEdges]
  | branch => simp
  | nop => simp

theorem get?_calls_observe (frame : Frame) (id : String) (n : Node) (s : State) (o : Observations)
    (key : String) : (frame.observe id n s o).calls.get? key =
      if key = frame.function.key id then (frame.callAt n s).or (o.calls.get? key)
      else o.calls.get? key := by
  have hsink : ∀ o : Observations,
      (frame.observeSink id (frame.function.key id) n s o).calls = o.calls := by
    intro o
    unfold observeSink
    cases frame.rules.sink? n.api <;> rfl
  unfold observe callAt
  cases n.kind with
  | assign =>
    unfold observeTainted
    dsimp only
    split <;> simp [Observations.addEdges]
  | call =>
    unfold observeCall
    dsimp only
    cases frame.role n with
    | resolved callee effect =>
      simp only [Observations.addEdges, hsink, Table.get?_set]
      split <;> rfl
    | unresolved =>
      dsimp only
      split <;> simp [Observations.addEdges, hsink]
    | _ => simp [Observations.addEdges, Observations.addOrigin, hsink]
  | ret => simp [Observations.addEdges]
  | branch => simp
  | nop => simp

/-- The recorded observations of a node are those of a visit in the given state. -/
structure Records (frame : Frame) (id : String) (n : Node) (s : State) (o : Observations) : Prop where
  reaching : o.reaching.get? id = some s.defs
  sinks : o.sinks.get? (frame.function.key id) = frame.sinkAt id n s
  calls : o.calls.get? (frame.function.key id) = frame.callAt n s

structure Unseen (frame : Frame) (id : String) (o : Observations) : Prop where
  reaching : o.reaching.get? id = none
  sinks : o.sinks.get? (frame.function.key id) = none
  calls : o.calls.get? (frame.function.key id) = none

-- Whether a visit records anything is settled by the node alone, so a visit leaves nothing of an
-- earlier one behind.
theorem or_sinkAt (frame : Frame) (id : String) (n : Node) (s t : State) :
    (frame.sinkAt id n s).or (frame.sinkAt id n t) = frame.sinkAt id n s := by
  unfold sinkAt
  split
  · cases frame.rules.sink? n.api <;> rfl
  · rfl

theorem or_callAt (frame : Frame) (n : Node) (s t : State) :
    (frame.callAt n s).or (frame.callAt n t) = frame.callAt n s := by
  unfold callAt
  split
  · cases frame.role n <;> rfl
  · rfl

theorem records_observe {frame : Frame} {id : String} {n : Node} {o : Observations} (s : State)
    (h : frame.Unseen id o ∨ ∃ t, frame.Records id n t o) :
    frame.Records id n s (frame.observe id n s o) where
  reaching := by
    rw [reaching_observe, OrderedMap.get?_set_self]
  sinks := by
    rw [get?_sinks_observe, if_pos rfl]
    rcases h with h | ⟨t, h⟩
    · rw [h.sinks, Option.or_none]
    · rw [h.sinks, or_sinkAt]
  calls := by
    rw [get?_calls_observe, if_pos rfl]
    rcases h with h | ⟨t, h⟩
    · rw [h.calls, Option.or_none]
    · rw [h.calls, or_callAt]

/-- The visit of another node leaves what is recorded of a node as it is. -/
theorem get?_observe_other {frame : Frame} {id other : String} (m : Node) (t : State) (o : Observations)
    (hne : id ≠ other) : (frame.observe other m t o).reaching.get? id = o.reaching.get? id ∧
      (frame.observe other m t o).sinks.get? (frame.function.key id) =
        o.sinks.get? (frame.function.key id) ∧
      (frame.observe other m t o).calls.get? (frame.function.key id) =
        o.calls.get? (frame.function.key id) := by
  have hkey : frame.function.key id ≠ frame.function.key other := fun he => hne (key_injective _ he)
  rw [reaching_observe, OrderedMap.get?_set_ne _ _ hne, get?_sinks_observe, if_neg hkey,
    get?_calls_observe, if_neg hkey]
  exact ⟨rfl, rfl, rfl⟩

theorem Records.observe_other {frame : Frame} {id other : String} {n m : Node} {s t : State}
    {o : Observations} (h : frame.Records id n s o) (hne : id ≠ other) :
    frame.Records id n s (frame.observe other m t o) := by
  obtain ⟨hreaching, hsinks, hcalls⟩ := get?_observe_other m t o hne
  exact ⟨hreaching.trans h.reaching, hsinks.trans h.sinks, hcalls.trans h.calls⟩

theorem Unseen.observe_other {frame : Frame} {id other : String} {m : Node} {t : State}
    {o : Observations} (h : frame.Unseen id o) (hne : id ≠ other) :
    frame.Unseen id (frame.observe other m t o) := by
  obtain ⟨hreaching, hsinks, hcalls⟩ := get?_observe_other m t o hne
  exact ⟨hreaching.trans h.reaching, hsinks.trans h.sinks, hcalls.trans h.calls⟩

end Frame

end TaintFlow
