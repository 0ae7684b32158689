import Mathlib.Logic.Relation
import TaintFlow.Proofs.Flow.Observation
import TaintFlow.Proofs.Flow.Path
import TaintFlow.Proofs.State.Join

/-!
# The worklist visits every path

A worklist may take its queued nodes in any order (`Frame.Visits`); the loop of the analysis is one
such order.  Along every order an invariant holds (`Frame.Invariant`): what flows into a node is
explained by paths, and a node that is not queued has passed its state on to all its successors and
has recorded it.  When the queue is empty the states before the nodes are exactly what the paths
yield (`carries_before_iff`, `definedBy_before_iff`).
-/

namespace TaintFlow

/-! ### Letting a state flow into nodes -/

namespace Progress

@[simp] theorem before_enqueue (p : Progress) (id : String) : (p.enqueue id).before = p.before := by
  unfold enqueue
  split <;> rfl

@[simp] theorem after_enqueue (p : Progress) (id : String) : (p.enqueue id).after = p.after := by
  unfold enqueue
  split <;> rfl

@[simp] theorem seen_enqueue (p : Progress) (id : String) : (p.enqueue id).seen = p.seen := by
  unfold enqueue
  split <;> rfl

theorem mem_queue_enqueue {p : Progress} {id other : String} :
    other ∈ (p.enqueue id).queue ↔ other ∈ p.queue ∨ other = id := by
  unfold enqueue
  split
  · next h =>
    refine ⟨Or.inl, fun hor => hor.elim (fun hq => hq) fun he => ?_⟩
    rw [he]
    exact h
  · simp

/-- `p'` is `p` after a state flowed into some nodes. -/
structure Flowed (out : State) (succs : List String) (p p' : Progress) : Prop where
  after_eq : p'.after = p.after
  seen_eq : p'.seen = p.seen
  queued : ∀ id, id ∈ p'.queue → id ∈ p.queue ∨ id ∈ succs
  queue_subset : ∀ id, id ∈ p.queue → id ∈ p'.queue
  received : ∀ id ∈ succs, ∃ t, p'.before.get? id = some t ∧ out.Within t
  kept : ∀ id s, p.before.get? id = some s → ∃ t, p'.before.get? id = some t ∧ s.Within t
  changed : ∀ id t, p'.before.get? id = some t → p.before.get? id = some t ∨ id ∈ p'.queue
  reached : ∀ id t, p'.before.get? id = some t → id ∈ succs ∨ ∃ s, p.before.get? id = some s
  carries : ∀ id t x i, p'.before.get? id = some t → t.Carries x i →
    (id ∈ succs ∧ out.Carries x i) ∨ ∃ s, p.before.get? id = some s ∧ s.Carries x i
  definedBy : ∀ id t x d, p'.before.get? id = some t → t.DefinedBy x d →
    (id ∈ succs ∧ out.DefinedBy x d) ∨ ∃ s, p.before.get? id = some s ∧ s.DefinedBy x d

theorem flowed_nil (out : State) (p : Progress) : Flowed out [] p p where
  after_eq := rfl
  seen_eq := rfl
  queued _ h := Or.inl h
  queue_subset _ h := h
  received _ h := absurd h List.not_mem_nil
  kept _ s h := ⟨s, h, .refl s⟩
  changed _ _ h := Or.inl h
  reached _ t h := Or.inr ⟨t, h⟩
  carries _ t _ _ h hc := Or.inr ⟨t, h, hc⟩
  definedBy _ t _ _ h hd := Or.inr ⟨t, h, hd⟩

theorem Flowed.trans {out : State} {first rest : List String} {p q r : Progress}
    (h : Flowed out first p q) (g : Flowed out rest q r) : Flowed out (first ++ rest) p r where
  after_eq := g.after_eq.trans h.after_eq
  seen_eq := g.seen_eq.trans h.seen_eq
  queued id hid := by
    rcases g.queued id hid with hq | hs
    · exact (h.queued id hq).imp_right (List.mem_append_left rest)
    · exact Or.inr (List.mem_append_right first hs)
  queue_subset id hid := g.queue_subset id (h.queue_subset id hid)
  received id hid := by
    rcases List.mem_append.1 hid with hf | hr
    · obtain ⟨s, hs, hout⟩ := h.received id hf
      obtain ⟨t, ht, hst⟩ := g.kept id s hs
      exact ⟨t, ht, hout.trans hst⟩
    · exact g.received id hr
  kept id s hs := by
    obtain ⟨t, ht, hst⟩ := h.kept id s hs
    obtain ⟨u, hu, htu⟩ := g.kept id t ht
    exact ⟨u, hu, hst.trans htu⟩
  changed id t ht := by
    rcases g.changed id t ht with hq | hq
    · exact (h.changed id t hq).imp_right (g.queue_subset id)
    · exact Or.inr hq
  reached id t ht := by
    rcases g.reached id t ht with hs | ⟨s, hs⟩
    · exact Or.inl (List.mem_append_right first hs)
    · exact (h.reached id s hs).imp_left (List.mem_append_left rest)
  carries id t x i ht hc := by
    rcases g.carries id t x i ht hc with ⟨hs, hout⟩ | ⟨s, hs, hc⟩
    · exact Or.inl ⟨List.mem_append_right first hs, hout⟩
    · exact (h.carries id s x i hs hc).imp_left fun hf => ⟨List.mem_append_left rest hf.1, hf.2⟩
  definedBy id t x d ht hd := by
    rcases g.definedBy id t x d ht hd with ⟨hs, hout⟩ | ⟨s, hs, hd⟩
    · exact Or.inl ⟨List.mem_append_right first hs, hout⟩
    · exact (h.definedBy id s x d hs hd).imp_left fun hf => ⟨List.mem_append_left rest hf.1, hf.2⟩

/-- A node whose state is replaced by a greater one, and which is queued for it. -/
theorem flowed_set {out next : State} {p : Progress} {id : String} (hout : out.Within next)
    (hcarries : ∀ x i, next.Carries x i →
      out.Carries x i ∨ ∃ s, p.before.get? id = some s ∧ s.Carries x i)
    (hdefined : ∀ x d, next.DefinedBy x d →
      out.DefinedBy x d ∨ ∃ s, p.before.get? id = some s ∧ s.DefinedBy x d)
    (hkept : ∀ s, p.before.get? id = some s → s.Within next) :
    Flowed out [id] p ({ p with before := p.before.set id next }.enqueue id) where
  after_eq := by simp
  seen_eq := by simp
  queued other h := by
    rw [mem_queue_enqueue] at h
    exact h.imp_right List.mem_singleton.2
  queue_subset other h := mem_queue_enqueue.2 (Or.inl h)
  received other h := by
    rw [List.mem_singleton.1 h]
    exact ⟨next, by simp, hout⟩
  kept other s hs := by
    by_cases he : other = id
    · subst he
      exact ⟨next, by simp, hkept s hs⟩
    · refine ⟨s, ?_, .refl s⟩
      rw [before_enqueue, OrderedMap.get?_set_ne _ _ he]
      exact hs
  changed other t ht := by
    by_cases he : other = id
    · exact Or.inr (mem_queue_enqueue.2 (Or.inr he))
    · rw [before_enqueue, OrderedMap.get?_set_ne _ _ he] at ht
      exact Or.inl ht
  reached other t ht := by
    by_cases he : other = id
    · exact Or.inl (he ▸ List.mem_singleton_self id)
    · rw [before_enqueue, OrderedMap.get?_set_ne _ _ he] at ht
      exact Or.inr ⟨t, ht⟩
  carries other t x i ht hc := by
    by_cases he : other = id
    · subst he
      rw [before_enqueue, OrderedMap.get?_set_self, Option.some.injEq] at ht
      subst ht
      exact (hcarries x i hc).imp_left fun ho => ⟨List.mem_singleton_self other, ho⟩
    · rw [before_enqueue, OrderedMap.get?_set_ne _ _ he] at ht
      exact Or.inr ⟨t, ht, hc⟩
  definedBy other t x d ht hd := by
    by_cases he : other = id
    · subst he
      rw [before_enqueue, OrderedMap.get?_set_self, Option.some.injEq] at ht
      subst ht
      exact (hdefined x d hd).imp_left fun ho => ⟨List.mem_singleton_self other, ho⟩
    · rw [before_enqueue, OrderedMap.get?_set_ne _ _ he] at ht
      exact Or.inr ⟨t, ht, hd⟩

theorem flowed_flowInto (out : State) (p : Progress) (id : String) :
    Flowed out [id] p (p.flowInto out id) := by
  unfold flowInto
  split
  · next h =>
    refine flowed_set (.refl out) (fun x i hc => Or.inl hc) (fun x d hd => Or.inl hd) ?_
    intro s hs
    rw [h] at hs
    cases hs
  · next current h =>
    split
    · refine flowed_set (State.within_join_right current out) ?_ ?_ ?_
      · intro x i hc
        rw [State.carries_join] at hc
        exact hc.symm.imp_right fun hs => ⟨current, h, hs⟩
      · intro x d hd
        rw [State.definedBy_join] at hd
        exact hd.symm.imp_right fun hs => ⟨current, h, hs⟩
      · intro s hs
        rw [h, Option.some.injEq] at hs
        subst hs
        exact State.within_join_left _ out
    · next hgrows =>
      have hwithin : out.Within current := State.within_of_not_grows (by simpa using hgrows)
      have hnil := flowed_nil out p
      exact
        { hnil with
          queued := fun other ho => Or.inl ho
          received := fun other ho => ⟨current, by rw [List.mem_singleton.1 ho]; exact h, hwithin⟩
          reached := fun other t ht => Or.inr ⟨t, ht⟩
          carries := fun other t x i ht hc => Or.inr ⟨t, ht, hc⟩
          definedBy := fun other t x d ht hd => Or.inr ⟨t, ht, hd⟩ }

theorem flowed_foldl (out : State) (succs : List String) (p : Progress) :
    Flowed out succs p (succs.foldl (flowInto out) p) := by
  induction succs generalizing p with
  | nil => exact flowed_nil out p
  | cons id rest ih => exact (flowed_flowInto out p id).trans (ih (p.flowInto out id))

end Progress

/-! ### Visiting queued nodes in any order -/

namespace Frame

/-- A queued node is visited, whichever it is. -/
def Visits (frame : Frame) (p p' : Progress) : Prop :=
  ∃ id n, id ∈ p.queue ∧ frame.function.node? id = some n ∧
    p' = frame.visit { p with queue := p.queue.erase id, visits := p.visits + 1 } id n

/-- Visits in some order have emptied the worklist. -/
def Completes (frame : Frame) (inputs : KeyMap TaintSet) (p : Progress) : Prop :=
  Relation.ReflTransGen frame.Visits (frame.start inputs) p ∧ p.queue = []

def arriving (frame : Frame) (inputs : KeyMap TaintSet) (ids : List String) : State :=
  frame.along (frame.entryState inputs) ids

theorem arriving_concat {frame : Frame} {id : String} {n : Node} (h : frame.function.node? id = some n)
    (inputs : KeyMap TaintSet) (ids : List String) : frame.arriving inputs (ids ++ [id]) =
      frame.transfer id n (frame.arriving inputs ids) := by
  rw [arriving, along_concat, pass_of_node h]
  rfl

/-- Whatever a state says at a node, some path to the node says. -/
structure Explained (frame : Frame) (inputs : KeyMap TaintSet) (id : String) (s : State) : Prop where
  reached : frame.function.Reaches id
  carries : ∀ x i, s.Carries x i →
    ∃ ids, frame.function.Path ids id ∧ (frame.arriving inputs ids).Carries x i
  definedBy : ∀ x d, s.DefinedBy x d →
    ∃ ids, frame.function.Path ids id ∧ (frame.arriving inputs ids).DefinedBy x d

/-- A node has passed the state before it on to its successors and has recorded it. -/
structure Settled (frame : Frame) (p : Progress) (id : String) (n : Node) (s : State) : Prop where
  node : frame.function.node? id = some n
  after : p.after.get? id = some (frame.transfer id n s)
  passed : ∀ succ ∈ n.succ, ∃ t, p.before.get? succ = some t ∧ (frame.transfer id n s).Within t
  records : frame.Records id n s p.seen

/-- What holds between any two visits. -/
structure Invariant (frame : Frame) (inputs : KeyMap TaintSet) (p : Progress) : Prop where
  entry : ∃ s, p.before.get? frame.function.entry = some s ∧ (frame.entryState inputs).Within s
  queued : ∀ id ∈ p.queue, ∃ s, p.before.get? id = some s
  explained : ∀ id s, p.before.get? id = some s → frame.Explained inputs id s
  settled : ∀ id s, p.before.get? id = some s → id ∉ p.queue → ∃ n, frame.Settled p id n s
  visited : ∀ id out, p.after.get? id = some out → ∃ s, p.before.get? id = some s
  seen : ∀ id out, p.after.get? id = some out →
    ∃ n s, frame.function.node? id = some n ∧ frame.Records id n s p.seen
  unseen : ∀ id, p.after.get? id = none → frame.Unseen id p.seen
  keyed : ∀ key, (∀ id, key ≠ frame.function.key id) →
    p.seen.sinks.get? key = none ∧ p.seen.calls.get? key = none

theorem Explained.carries_transfer {frame : Frame} {inputs : KeyMap TaintSet} {id : String}
    {n : Node} {s : State} (h : frame.Explained inputs id s)
    (hnode : frame.function.node? id = some n) {x : Slot} {i : Identity}
    (hc : (frame.transfer id n s).Carries x i) :
    ∃ ids, frame.function.Path ids id ∧ (frame.arriving inputs (ids ++ [id])).Carries x i := by
  have hw := frame.describes_transfer id n
  have hstep := arriving_concat hnode inputs
  rw [hw.carries_iff] at hc
  rcases hc with hm | ⟨y, hy, hc⟩
  · obtain ⟨ids, hpath⟩ := h.reached
    refine ⟨ids, hpath, ?_⟩
    rw [hstep, hw.carries_iff]
    exact Or.inl hm
  · obtain ⟨ids, hpath, hc⟩ := h.carries y i hc
    refine ⟨ids, hpath, ?_⟩
    rw [hstep, hw.carries_iff]
    exact Or.inr ⟨y, hy, hc⟩

theorem Explained.definedBy_transfer {frame : Frame} {inputs : KeyMap TaintSet} {id : String}
    {n : Node} {s : State} (h : frame.Explained inputs id s)
    (hnode : frame.function.node? id = some n) {x : Slot} {d : String}
    (hd : (frame.transfer id n s).DefinedBy x d) :
    ∃ ids, frame.function.Path ids id ∧ (frame.arriving inputs (ids ++ [id])).DefinedBy x d := by
  have hw := frame.describes_transfer id n
  have hstep := arriving_concat hnode inputs
  rw [hw.definedBy_iff] at hd
  rcases hd with ⟨hk, hd⟩ | ⟨rfl, hwrites | ⟨y, hy, i, hc⟩⟩
  · obtain ⟨ids, hpath, hd⟩ := h.definedBy x d hd
    refine ⟨ids, hpath, ?_⟩
    rw [hstep, hw.definedBy_iff]
    exact Or.inl ⟨hk, hd⟩
  · obtain ⟨ids, hpath⟩ := h.reached
    refine ⟨ids, hpath, ?_⟩
    rw [hstep, hw.definedBy_iff]
    exact Or.inr ⟨rfl, Or.inl hwrites⟩
  · obtain ⟨ids, hpath, hc⟩ := h.carries y i hc
    refine ⟨ids, hpath, ?_⟩
    rw [hstep, hw.definedBy_iff]
    exact Or.inr ⟨rfl, Or.inr ⟨y, hy, i, hc⟩⟩

/-- What is explained before a node is explained after it, at each successor. -/
theorem Explained.transfer {frame : Frame} {inputs : KeyMap TaintSet} {id succ : String} {n : Node}
    {s : State} (h : frame.Explained inputs id s) (hnode : frame.function.node? id = some n)
    (hsucc : succ ∈ n.succ) : frame.Explained inputs succ (frame.transfer id n s) where
  reached := by
    obtain ⟨ids, hpath⟩ := h.reached
    exact ⟨ids ++ [id], hpath.step hnode hsucc⟩
  carries x i hc := by
    obtain ⟨ids, hpath, hc⟩ := h.carries_transfer hnode hc
    exact ⟨ids ++ [id], hpath.step hnode hsucc, hc⟩
  definedBy x d hd := by
    obtain ⟨ids, hpath, hd⟩ := h.definedBy_transfer hnode hd
    exact ⟨ids ++ [id], hpath.step hnode hsucc, hd⟩

/-- Before the first visit nothing is recorded of any node. -/
theorem entryObservations_records (frame : Frame) : frame.entryObservations.reaching = ∅ ∧
    frame.entryObservations.sinks = ∅ ∧ frame.entryObservations.calls = ∅ := by
  refine List.foldlRecOn (motive := fun o : Observations =>
    o.reaching = ∅ ∧ o.sinks = ∅ ∧ o.calls = ∅) _ _ ⟨rfl, rfl, rfl⟩ fun o h entry _ => ?_
  dsimp only
  cases entry.2.origin <;> exact h

theorem invariant_start (frame : Frame) (inputs : KeyMap TaintSet) :
    frame.Invariant inputs (frame.start inputs) := by
  have hbefore : ∀ id s, (frame.start inputs).before.get? id = some s →
      id = frame.function.entry ∧ s = frame.entryState inputs := by
    intro id s h
    have h : (OrderedMap.empty.set frame.function.entry (frame.entryState inputs)).get? id
      = some s := h
    rw [OrderedMap.get?_set] at h
    split at h
    · next he => exact ⟨he, (Option.some.inj h).symm⟩
    · cases h
  obtain ⟨hreaching, hsinks, hcalls⟩ := frame.entryObservations_records
  exact {
    entry := ⟨frame.entryState inputs, OrderedMap.get?_set_self _ _ _, .refl _⟩
    queued := fun id hid => by
      rw [List.mem_singleton.1 hid]
      exact ⟨_, OrderedMap.get?_set_self _ _ _⟩
    explained := fun id s h => by
      obtain ⟨rfl, rfl⟩ := hbefore id s h
      exact ⟨⟨[], .entry⟩, fun x i hc => ⟨[], .entry, hc⟩, fun x d hd => ⟨[], .entry, hd⟩⟩
    settled := fun id s h hnot => by
      obtain ⟨rfl, rfl⟩ := hbefore id s h
      exact absurd List.mem_cons_self hnot
    visited := fun id out h => by cases h
    seen := fun id out h => by cases h
    unseen := fun id _ => {
      reaching := (congrArg (·.get? id) hreaching).trans rfl
      sinks := (congrArg (·.get? (frame.function.key id)) hsinks).trans rfl
      calls := (congrArg (·.get? (frame.function.key id)) hcalls).trans rfl }
    keyed := fun key _ =>
      ⟨(congrArg (·.get? key) hsinks).trans rfl, (congrArg (·.get? key) hcalls).trans rfl⟩ }

/-- A visit: the state before a queued node is recorded, and the state after it flows into the successors. -/
structure Visit (frame : Frame) (p p' : Progress) (id : String) (n : Node) (s : State) : Prop where
  queued : id ∈ p.queue
  node : frame.function.node? id = some n
  before : p.before.get? id = some s
  flowed : Progress.Flowed (frame.transfer id n s) n.succ
    { p with
      queue := p.queue.erase id
      visits := p.visits + 1
      after := p.after.set id (frame.transfer id n s)
      seen := frame.observe id n s p.seen } p'

variable {frame : Frame} {inputs : KeyMap TaintSet} {p p' : Progress} {id other : String} {n : Node}
  {s t : State}

theorem Invariant.exists_visit (h : frame.Invariant inputs p) (hvisit : frame.Visits p p') :
    ∃ id n s, frame.Visit p p' id n s := by
  obtain ⟨id, n, hqueue, hnode, rfl⟩ := hvisit
  obtain ⟨s, hs⟩ := h.queued id hqueue
  have hstate : p.before.getD id .empty = s := by rw [OrderedMap.getD, hs, Option.getD_some]
  refine ⟨id, n, s, hqueue, hnode, hs, ?_⟩
  simp only [Frame.visit, hstate]
  exact Progress.flowed_foldl _ n.succ _

namespace Visit

theorem get?_after (v : frame.Visit p p' id n s) (other : String) :
    p'.after.get? other = if other = id then some (frame.transfer id n s) else p.after.get? other := by
  rw [v.flowed.after_eq]
  exact Table.get?_set _ _ _ _

theorem seen_eq (v : frame.Visit p p' id n s) : p'.seen = frame.observe id n s p.seen := v.flowed.seen_eq

theorem mem_queue (v : frame.Visit p p' id n s) (hne : other ≠ id) (h : other ∈ p.queue) :
    other ∈ p'.queue :=
  v.flowed.queue_subset other ((List.mem_erase_of_ne hne).2 h)

end Visit

/-- What is recorded of the node is what this visit saw. -/
theorem Invariant.records_visit (h : frame.Invariant inputs p) (v : frame.Visit p p' id n s) :
    frame.Records id n s p'.seen := by
  rw [v.seen_eq]
  refine records_observe s ?_
  cases ha : p.after.get? id with
  | none => exact Or.inl (h.unseen id ha)
  | some earlier =>
    obtain ⟨m, t, hm, hrecords⟩ := h.seen id earlier ha
    obtain rfl : n = m := Option.some.inj (v.node.symm.trans hm)
    exact Or.inr ⟨t, hrecords⟩

/-- What a node receives comes from the node that is visited, and was explained there. -/
theorem Invariant.explained_visit (h : frame.Invariant inputs p) (v : frame.Visit p p' id n s)
    (ht : p'.before.get? other = some t) : frame.Explained inputs other t := by
  have hout : ∀ succ ∈ n.succ, frame.Explained inputs succ (frame.transfer id n s) := fun succ hsucc =>
    (h.explained id s v.before).transfer v.node hsucc
  exact {
    reached := by
      rcases v.flowed.reached other t ht with hsucc | ⟨u, hu⟩
      · exact (hout other hsucc).reached
      · exact (h.explained other u hu).reached
    carries := fun x i hc => by
      rcases v.flowed.carries other t x i ht hc with ⟨hsucc, hc⟩ | ⟨u, hu, hc⟩
      · exact (hout other hsucc).carries x i hc
      · exact (h.explained other u hu).carries x i hc
    definedBy := fun x d hd => by
      rcases v.flowed.definedBy other t x d ht hd with ⟨hsucc, hd⟩ | ⟨u, hu, hd⟩
      · exact (hout other hsucc).definedBy x d hd
      · exact (h.explained other u hu).definedBy x d hd }

/-- A settled node that is not visited stays settled. -/
theorem Settled.visit {m : Node} (hm : frame.Settled p other m t) (v : frame.Visit p p' id n s)
    (hne : other ≠ id) : frame.Settled p' other m t where
  node := hm.node
  after := by
    rw [v.get?_after, if_neg hne]
    exact hm.after
  passed succ hsucc := by
    obtain ⟨u, hu, hwithin⟩ := hm.passed succ hsucc
    obtain ⟨w, hw, huw⟩ := v.flowed.kept succ u hu
    exact ⟨w, hw, hwithin.trans huw⟩
  records := by
    rw [v.seen_eq]
    exact hm.records.observe_other hne

theorem Invariant.settled_visit (h : frame.Invariant inputs p) (v : frame.Visit p p' id n s)
    (ht : p'.before.get? other = some t) (hnot : other ∉ p'.queue) : ∃ m, frame.Settled p' other m t := by
  -- a state that has changed is queued, so this one is as it was before the visit
  have hold : p.before.get? other = some t := (v.flowed.changed other t ht).resolve_right hnot
  by_cases he : other = id
  · subst he
    obtain rfl : t = s := Option.some.inj (hold.symm.trans v.before)
    exact ⟨n, v.node, by rw [v.get?_after, if_pos rfl], v.flowed.received, h.records_visit v⟩
  · obtain ⟨m, hm⟩ := h.settled other t hold fun hq => hnot (v.mem_queue he hq)
    exact ⟨m, hm.visit v he⟩

theorem Invariant.seen_visit {out : State} (h : frame.Invariant inputs p) (v : frame.Visit p p' id n s)
    (hout : p'.after.get? other = some out) :
    ∃ m t, frame.function.node? other = some m ∧ frame.Records other m t p'.seen := by
  by_cases he : other = id
  · exact ⟨n, s, he ▸ v.node, he ▸ h.records_visit v⟩
  · rw [v.get?_after, if_neg he] at hout
    obtain ⟨m, t, hm, hrecords⟩ := h.seen other out hout
    rw [v.seen_eq]
    exact ⟨m, t, hm, hrecords.observe_other he⟩

/-- **One visit keeps the invariant.** -/
theorem Invariant.visit (h : frame.Invariant inputs p) (hvisit : frame.Visits p p') :
    frame.Invariant inputs p' := by
  obtain ⟨id, n, s, v⟩ := h.exists_visit hvisit
  have hkept : ∀ other, (∃ t, p.before.get? other = some t) → ∃ u, p'.before.get? other = some u := by
    rintro other ⟨t, ht⟩
    obtain ⟨u, hu, -⟩ := v.flowed.kept other t ht
    exact ⟨u, hu⟩
  exact {
    entry := by
      obtain ⟨t, ht, hwithin⟩ := h.entry
      obtain ⟨u, hu, htu⟩ := v.flowed.kept _ t ht
      exact ⟨u, hu, hwithin.trans htu⟩
    queued := fun other hother => by
      rcases v.flowed.queued other hother with hq | hsucc
      · exact hkept other (h.queued other (List.mem_of_mem_erase hq))
      · obtain ⟨u, hu, -⟩ := v.flowed.received other hsucc
        exact ⟨u, hu⟩
    explained := fun other t ht => h.explained_visit v ht
    settled := fun other t ht hnot => h.settled_visit v ht hnot
    visited := fun other out hout => by
      by_cases he : other = id
      · exact hkept other ⟨s, he ▸ v.before⟩
      · rw [v.get?_after, if_neg he] at hout
        exact hkept other (h.visited other out hout)
    seen := fun other out hout => h.seen_visit v hout
    unseen := fun other hnone => by
      rw [v.get?_after] at hnone
      split at hnone
      · cases hnone
      · next he =>
        rw [v.seen_eq]
        exact (h.unseen other hnone).observe_other he
    keyed := fun key hkey => by
      rw [v.seen_eq, get?_sinks_observe, get?_calls_observe, if_neg (hkey id), if_neg (hkey id)]
      exact h.keyed key hkey }

/-- **Every run of visits keeps the invariant.** -/
theorem invariant_of_visits {frame : Frame} {inputs : KeyMap TaintSet} {p : Progress}
    (h : Relation.ReflTransGen frame.Visits (frame.start inputs) p) : frame.Invariant inputs p := by
  induction h with
  | refl => exact frame.invariant_start inputs
  | tail _ hvisit ih => exact ih.visit hvisit

end Frame

end TaintFlow
