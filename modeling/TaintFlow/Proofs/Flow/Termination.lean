import Mathlib.Data.Set.Card
import TaintFlow.Proofs.Flow.Faults
import TaintFlow.Proofs.Flow.Occurring

/-!
# The worklist comes to an end

Every time that a node is queued again, the state before it has gained something: the node was reached at all, a
slot got a taint, a label or a definition (`State.Gain`).  Nothing of this is lost, so the visits and the queue
together are never more than what has been gained (`visits_add_length_le`), and there is only so much to gain
where finitely many slots, labels and definitions occur (`gained_subset`).  What a label went through is no gain:
around a loop it could grow for ever.

So the worklist ends without its budget (`exists_ends`), and any budget that is large enough leads to the same
analysis.
-/

namespace TaintFlow

namespace State

variable {s t : State} {x y : Slot}

/-! ### States that define what they mention -/

/-- The slot has a taint or definitions, if empty ones. -/
def Mentions (s : State) (x : Slot) : Prop :=
  (∃ taint, s.taint.get? x = some taint) ∨ ∃ defs, s.defs.get? x = some defs

/-- Every slot that the state mentions is defined. -/
def Grounded (s : State) : Prop := ∀ x, s.Mentions x → ∃ d, s.DefinedBy x d

theorem grounded_empty : empty.Grounded := by
  rintro x (⟨_, h⟩ | ⟨_, h⟩) <;> cases h

theorem Grounded.write (h : s.Grounded) (hwritten : ∃ d, t.DefinedBy y d)
    (hothers : ∀ x, x ≠ y → (t.Mentions x → s.Mentions x) ∧ ∀ d, s.DefinedBy x d → t.DefinedBy x d) :
    t.Grounded := by
  intro x hx
  by_cases he : x = y
  · exact he ▸ hwritten
  · obtain ⟨hmentions, hdefined⟩ := hothers x he
    obtain ⟨d, hd⟩ := h x (hmentions hx)
    exact ⟨d, hdefined d hd⟩

theorem Grounded.assign (h : s.Grounded) (y : Slot) (taint : TaintSet) (d : String) :
    (s.assign y taint d).Grounded := by
  refine h.write (y := y) ⟨d, definedBy_assign.2 (by rw [if_pos rfl])⟩ fun x he => ⟨fun hx => ?_, fun e hd => ?_⟩
  · rwa [Mentions, State.assign, OrderedMap.get?_set_ne _ _ he, OrderedMap.get?_set_ne _ _ he] at hx
  · exact definedBy_assign.2 (by rwa [if_neg he])

theorem Grounded.weakAssign (h : s.Grounded) (y : Slot) (taint : TaintSet) (d : String) :
    (s.weakAssign y taint d).Grounded := by
  refine h.write (y := y) ⟨d, definedBy_weakAssign.2 (Or.inr ⟨rfl, rfl⟩)⟩
    fun x he => ⟨fun hx => ?_, fun e hd => ?_⟩
  · rwa [Mentions, State.weakAssign, OrderedMap.get?_set_ne _ _ he, OrderedMap.get?_set_ne _ _ he] at hx
  · exact definedBy_weakAssign.2 (Or.inl hd)

theorem Grounded.addDefinition (h : s.Grounded) (y : Slot) (d : String) : (s.addDefinition y d).Grounded := by
  refine h.write (y := y) ⟨d, definedBy_addDefinition.2 (Or.inr ⟨rfl, rfl⟩)⟩
    fun x he => ⟨fun hx => ?_, fun e hd => ?_⟩
  · rwa [Mentions, State.addDefinition, OrderedMap.get?_set_ne _ _ he] at hx
  · exact definedBy_addDefinition.2 (Or.inl hd)

theorem Mentions.of_join (h : (s.join t).Mentions x) : s.Mentions x ∨ t.Mentions x := by
  simp only [Mentions, ← OrderedMap.contains_iff, contains_taint_join, contains_defs_join, Bool.or_eq_true] at h ⊢
  exact or_or_or_comm.1 h

theorem Grounded.join (hs : s.Grounded) (ht : t.Grounded) : (s.join t).Grounded := by
  intro x hx
  rcases hx.of_join with hx | hx
  · exact (hs x hx).imp fun d hd => definedBy_join.2 (Or.inl hd)
  · exact (ht x hx).imp fun d hd => definedBy_join.2 (Or.inr hd)

/-! ### What a state can gain -/

/-- What the state before a node can gain. -/
inductive Gain where
  /-- The node is reached at all. -/
  | reached
  /-- The slot has a taint, if an empty one. -/
  | tracked (x : Slot)
  | carries (x : Slot) (i : Identity)
  | definedBy (x : Slot) (d : String)

def Has (s : State) : Gain → Prop
  | .reached => True
  | .tracked x => ∃ taint, s.taint.get? x = some taint
  | .carries x i => s.Carries x i
  | .definedBy x d => s.DefinedBy x d

theorem has_join_iff {g : Gain} : (s.join t).Has g ↔ s.Has g ∨ t.Has g := by
  cases g with
  | reached => exact (or_self_iff).symm
  | tracked x => simp only [Has, ← OrderedMap.contains_iff, contains_taint_join, Bool.or_eq_true]
  | carries x i => exact carries_join
  | definedBy x d => exact definedBy_join

/-- **A state that grows by another one lacks something that the other one has.** -/
theorem exists_has_of_grows (ht : t.Grounded) (h : s.grows t = true) : ∃ g, t.Has g ∧ ¬ s.Has g := by
  rcases grows_iff_adds.1 h with ⟨x, hx, hnot⟩ | ⟨x, hx, hnot⟩ | ⟨x, i, hx, hnot⟩ | ⟨x, d, hx, hnot⟩
  · rw [contains_taint_join, hnot, Bool.false_or] at hx
    refine ⟨.tracked x, OrderedMap.contains_iff.1 hx, fun hs => ?_⟩
    exact Bool.false_ne_true (hnot.symm.trans (OrderedMap.contains_iff.2 hs))
  · rw [contains_defs_join, hnot, Bool.false_or] at hx
    -- the slot may be new to the definitions only, and then it need not be new to the taint
    obtain ⟨d, hd⟩ := ht x (Or.inr (OrderedMap.contains_iff.1 hx))
    refine ⟨.definedBy x d, hd, fun hs => ?_⟩
    obtain ⟨defs, hdefs, -⟩ := OrderedMap.mem_getD_iff.1 hs
    exact Bool.false_ne_true (hnot.symm.trans (OrderedMap.contains_iff.2 ⟨defs, hdefs⟩))
  · exact ⟨.carries x i, (carries_join.1 hx).resolve_left hnot, hnot⟩
  · exact ⟨.definedBy x d, (definedBy_join.1 hx).resolve_left hnot, hnot⟩

/-! ### How much there is to gain -/

section Gains

variable {slots : Set Slot} {labels : Set Identity} {definitions : Set String}

/-- What can be gained where only some slots, labels and definitions occur. -/
def gains (slots : Set Slot) (labels : Set Identity) (definitions : Set String) : Set Gain :=
  {.reached} ∪ (Gain.tracked '' slots ∪ ((fun p => Gain.carries p.1 p.2) '' (slots ×ˢ labels) ∪
    (fun p => Gain.definedBy p.1 p.2) '' (slots ×ˢ definitions)))

theorem finite_gains (hslots : slots.Finite) (hlabels : labels.Finite) (hdefinitions : definitions.Finite) :
    (gains slots labels definitions).Finite :=
  (Set.finite_singleton _).union ((hslots.image _).union (((hslots.prod hlabels).image _).union
    ((hslots.prod hdefinitions).image _)))

theorem ncard_gains_le (hslots : slots.Finite) (hlabels : labels.Finite) (hdefinitions : definitions.Finite) :
    (gains slots labels definitions).ncard ≤ 1 + slots.ncard * (1 + labels.ncard + definitions.ncard) := by
  have htracked := Set.ncard_image_le (f := Gain.tracked) hslots
  have hcarries := Set.ncard_image_le (f := fun p : Slot × Identity => Gain.carries p.1 p.2) (hslots.prod hlabels)
  have hdefined := Set.ncard_image_le (f := fun p : Slot × String => Gain.definedBy p.1 p.2)
    (hslots.prod hdefinitions)
  rw [Set.ncard_prod] at hcarries hdefined
  calc (gains slots labels definitions).ncard
      ≤ 1 + (slots.ncard + (slots.ncard * labels.ncard + slots.ncard * definitions.ncard)) := by
        refine (Set.ncard_union_le _ _).trans (Nat.add_le_add (Set.ncard_singleton _).le ?_)
        refine (Set.ncard_union_le _ _).trans (Nat.add_le_add htracked ?_)
        exact (Set.ncard_union_le _ _).trans (Nat.add_le_add hcarries hdefined)
    _ = 1 + slots.ncard * (1 + labels.ncard + definitions.ncard) := by
        rw [Nat.mul_add, Nat.mul_add, Nat.mul_one, Nat.add_assoc]

end Gains

theorem finite_has (s : State) : {g | s.Has g}.Finite := by
  have htracked : {x | ∃ taint, s.taint.get? x = some taint}.Finite :=
    (List.finite_toSet s.taint.keys).subset fun x hx => OrderedMap.mem_keys_iff.2 hx
  refine (finite_gains (htracked.union s.finite_defined) s.finite_carries s.finite_definedBy).subset ?_
  intro g hg
  cases g with
  | reached => exact Or.inl rfl
  | tracked x => exact Or.inr (Or.inl ⟨x, Or.inl hg, rfl⟩)
  | carries x i =>
    obtain ⟨taint, htaint, -⟩ := OrderedMap.has_getD_iff.1 hg
    exact Or.inr (Or.inr (Or.inl ⟨(x, i), ⟨Or.inl ⟨taint, htaint⟩, x, hg⟩, rfl⟩))
  | definedBy x d => exact Or.inr (Or.inr (Or.inr ⟨(x, d), ⟨Or.inr ⟨d, hg⟩, x, hg⟩, rfl⟩))

end State

/-! ### Nodes keep states grounded -/

namespace Frame

variable {frame : Frame} {inputs : KeyMap TaintSet} {s : State}

theorem grounded_assignResult (h : s.Grounded) (n : Node) (taint : TaintSet) (key : String) :
    (n.assignResult s taint key).Grounded := by
  unfold Node.assignResult
  split
  · exact h.assign _ taint key
  · exact h

theorem grounded_apply (h : s.Grounded) (e : Effect) (globals : Names) (n : Node) (key : String) :
    (e.apply globals n s key).Grounded := by
  rw [Effect.apply_eq]
  refine List.foldlRecOn (motive := State.Grounded) _ _ ?_ fun t ht output _ => ?_
  · refine List.foldlRecOn (motive := State.Grounded) _ _ (grounded_assignResult h n _ key)
      fun t ht arrived _ => ?_
    unfold Effect.settle
    split
    · exact ht.weakAssign _ _ key
    · exact ht
  · unfold Effect.announce
    split
    · split
      · exact ht.addDefinition _ key
      · exact ht
    · exact ht

theorem grounded_transfer (h : s.Grounded) (frame : Frame) (id : String) (n : Node) :
    (frame.transfer id n s).Grounded := by
  unfold transfer
  dsimp only
  split
  · split
    · exact h.assign _ _ _
    · exact h
  · exact h.weakAssign _ _ _
  · unfold transferCall
    split
    · exact grounded_assignResult h n _ _
    · exact grounded_assignResult h n _ _
    · next effect _ => exact grounded_apply h effect frame.globals n _
    · exact grounded_assignResult h n _ _
    · exact grounded_assignResult h n _ _
  · exact h
  · exact h

theorem grounded_entryState (frame : Frame) (inputs : KeyMap TaintSet) : (frame.entryState inputs).Grounded := by
  unfold entryState
  dsimp only
  refine List.foldlRecOn (motive := State.Grounded) _ _ ?_ fun t ht name _ => ?_
  · split
    · refine State.Grounded.assign ?_ _ _ _
      exact List.foldlRecOn _ _ State.grounded_empty fun t ht entry _ => ht.assign _ _ _
    · exact List.foldlRecOn _ _ State.grounded_empty fun t ht entry _ => ht.assign _ _ _
  · split
    · exact ht
    · exact ht.assign _ _ _

end Frame

/-! ### What a worklist has gained -/

namespace Progress

variable {p : Progress} {out : State} {id : String}

def gained (p : Progress) : Set (String × State.Gain) := {g | ∃ s, p.before.get? g.1 = some s ∧ s.Has g.2}

theorem finite_gained (p : Progress) : p.gained.Finite := by
  have hentries : (⋃ entry ∈ {entry | entry ∈ p.before.entries}, Prod.mk entry.1 '' {g | entry.2.Has g}).Finite :=
    (List.finite_toSet p.before.entries).biUnion fun entry _ => entry.2.finite_has.image _
  refine hentries.subset ?_
  rintro ⟨id, g⟩ ⟨s, hs, hg⟩
  exact Set.mem_biUnion (OrderedMap.mem_entries_iff.2 hs) ⟨g, hg, rfl⟩

def Grounded (p : Progress) : Prop := ∀ id s, p.before.get? id = some s → s.Grounded

theorem length_queue_enqueue (p : Progress) (id : String) : (p.enqueue id).queue.length ≤ p.queue.length + 1 := by
  unfold enqueue
  split
  · exact Nat.le_succ _
  · exact (List.length_append).le

def requeue (p : Progress) (id : String) (next : State) : Progress :=
  { p with before := p.before.set id next }.enqueue id

theorem get?_requeue (p : Progress) (id other : String) (next : State) :
    (p.requeue id next).before.get? other = if other = id then some next else p.before.get? other := by
  rw [requeue, before_enqueue, OrderedMap.get?_set]

/-- When the state before a node is replaced by one that has more, the place in the queue is paid for. -/
theorem paid_requeue {next : State} (hkept : ∀ s, p.before.get? id = some s → ∀ g, s.Has g → next.Has g)
    (hnew : ∃ g, next.Has g ∧ ∀ s, p.before.get? id = some s → ¬ s.Has g) :
    (p.requeue id next).queue.length + p.gained.ncard ≤
      p.queue.length + (p.requeue id next).gained.ncard := by
  have hnext : (p.requeue id next).before.get? id = some next := by rw [get?_requeue, if_pos rfl]
  have hsubset : p.gained ⊆ (p.requeue id next).gained := by
    rintro ⟨other, g⟩ ⟨s, hs, hg⟩
    by_cases he : other = id
    · subst he
      exact ⟨next, hnext, hkept s hs g hg⟩
    · exact ⟨s, by rwa [get?_requeue, if_neg he], hg⟩
  obtain ⟨g, hg, hnot⟩ := hnew
  have hlt : p.gained.ncard < (p.requeue id next).gained.ncard := by
    refine Set.ncard_lt_ncard ((Set.ssubset_iff_of_subset hsubset).2 ⟨(id, g), ⟨next, hnext, hg⟩, ?_⟩)
      (finite_gained _)
    rintro ⟨s, hs, hs'⟩
    exact hnot s hs hs'
  have hlength : (p.requeue id next).queue.length ≤ p.queue.length + 1 := length_queue_enqueue _ id
  omega

/-- **A place in the queue is paid for by a gain.** -/
theorem paid_flowInto (hout : out.Grounded) (p : Progress) (id : String) :
    (p.flowInto out id).queue.length + p.gained.ncard ≤ p.queue.length + (p.flowInto out id).gained.ncard := by
  unfold flowInto
  split
  · next hnone =>
    have hnothing : ∀ {motive : State → Prop} s, p.before.get? id = some s → motive s := fun s hs =>
      nomatch hnone.symm.trans hs
    exact paid_requeue hnothing ⟨.reached, trivial, hnothing⟩
  · next current hcurrent =>
    split
    · next hgrows =>
      obtain ⟨g, hg, hnot⟩ := State.exists_has_of_grows hout hgrows
      refine paid_requeue (fun s hs g hg => ?_) ⟨g, State.has_join_iff.2 (Or.inr hg), fun s hs => ?_⟩
      · obtain rfl := Option.some.inj (hcurrent.symm.trans hs)
        exact State.has_join_iff.2 (Or.inl hg)
      · obtain rfl := Option.some.inj (hcurrent.symm.trans hs)
        exact hnot
    · exact le_rfl

theorem grounded_flowInto (hp : p.Grounded) (hout : out.Grounded) (id : String) :
    (p.flowInto out id).Grounded := by
  have hrequeue : ∀ {next : State}, next.Grounded → (p.requeue id next).Grounded := by
    intro next hnext other s hs
    rw [get?_requeue] at hs
    split at hs
    · exact Option.some.inj hs ▸ hnext
    · exact hp other s hs
  unfold flowInto
  split
  · exact hrequeue hout
  · next current hcurrent =>
    split
    · exact hrequeue ((hp id current hcurrent).join hout)
    · exact hp

theorem visits_flowInto (out : State) (p : Progress) (id : String) : (p.flowInto out id).visits = p.visits := by
  have henqueue : ∀ q : Progress, (q.enqueue id).visits = q.visits := fun q => by
    unfold enqueue
    split <;> rfl
  unfold flowInto
  split
  · exact henqueue _
  · split
    · exact henqueue _
    · rfl

theorem paid_foldl_flowInto (hout : out.Grounded) (succs : List String) (p : Progress) :
    (succs.foldl (flowInto out) p).queue.length + p.gained.ncard ≤
      p.queue.length + (succs.foldl (flowInto out) p).gained.ncard := by
  induction succs generalizing p with
  | nil => exact le_rfl
  | cons id rest ih =>
    have hstep := paid_flowInto hout p id
    have hrest := ih (p.flowInto out id)
    rw [List.foldl_cons]
    omega

theorem grounded_foldl_flowInto (hp : p.Grounded) (hout : out.Grounded) (succs : List String) :
    (succs.foldl (flowInto out) p).Grounded :=
  List.foldlRecOn (motive := Grounded) succs _ hp fun _ hq id _ => grounded_flowInto hq hout id

theorem visits_foldl_flowInto (out : State) (succs : List String) (p : Progress) :
    (succs.foldl (flowInto out) p).visits = p.visits :=
  List.foldlRecOn (motive := fun q : Progress => q.visits = p.visits) succs _ rfl fun q hq id _ =>
    (visits_flowInto out q id).trans hq

end Progress

namespace Frame

variable {frame : Frame} {inputs : KeyMap TaintSet} {p q : Progress}

theorem visits_of_visit (h : frame.Visits p q) : q.visits = p.visits + 1 := by
  obtain ⟨id, n, -, -, rfl⟩ := h
  exact Progress.visits_foldl_flowInto _ n.succ _

/-- One visit keeps the states grounded and pays for what it queues. -/
theorem paid_of_visit (hp : p.Grounded) (h : frame.Visits p q) :
    q.Grounded ∧ q.visits + q.queue.length + p.gained.ncard ≤ p.visits + p.queue.length + q.gained.ncard := by
  have hvisits := visits_of_visit h
  obtain ⟨id, n, hqueue, -, rfl⟩ := h
  have hstate : (p.before.getD id .empty).Grounded := by
    unfold OrderedMap.getD
    cases hs : p.before.get? id with
    | none => exact State.grounded_empty
    | some s => exact hp id s hs
  have hout := grounded_transfer hstate frame id n
  obtain ⟨popped, hvisit, hbefore, hpopped⟩ : ∃ popped : Progress,
      frame.visit { p with queue := p.queue.erase id, visits := p.visits + 1 } id n =
        n.succ.foldl (Progress.flowInto (frame.transfer id n (p.before.getD id .empty))) popped ∧
      popped.before = p.before ∧ popped.queue = p.queue.erase id := ⟨_, rfl, rfl, rfl⟩
  have hgained : popped.gained = p.gained := by
    unfold Progress.gained
    rw [hbefore]
  have hpopped' : popped.Grounded := fun other s hs => hp other s (hbefore ▸ hs)
  have hpaid := Progress.paid_foldl_flowInto hout n.succ popped
  have hlength := List.length_erase_add_one hqueue
  rw [hvisit] at hvisits ⊢
  rw [hgained, hpopped] at hpaid
  exact ⟨Progress.grounded_foldl_flowInto hpopped' hout n.succ, by omega⟩

/-- **Visits and queued nodes are never more than what has been gained.** -/
theorem visits_add_length_le (h : Relation.ReflTransGen frame.Visits (frame.start inputs) p) :
    p.Grounded ∧ p.visits + p.queue.length ≤ p.gained.ncard := by
  induction h with
  | refl =>
    have hbefore : ∀ id s, (frame.start inputs).before.get? id = some s → s = frame.entryState inputs := by
      intro id s hs
      have hs : (OrderedMap.empty.set frame.function.entry (frame.entryState inputs)).get? id = some s := hs
      rw [OrderedMap.get?_set] at hs
      split at hs
      · exact (Option.some.inj hs).symm
      · cases hs
    refine ⟨fun id s hs => hbefore id s hs ▸ frame.grounded_entryState inputs, ?_⟩
    refine (Set.ncard_pos (Progress.finite_gained _)).2 ⟨(frame.function.entry, .reached), ?_⟩
    exact ⟨frame.entryState inputs, OrderedMap.get?_set_self _ _ _, trivial⟩
  | tail _ hvisit ih =>
    obtain ⟨hgrounded, hpaid⟩ := paid_of_visit ih.1 hvisit
    exact ⟨hgrounded, by omega⟩

/-! ### The bound -/

/-- How many visits a worklist takes at most where that many nodes, slots, labels and definitions occur. -/
def mostVisits (nodes slots labels definitions : Nat) : Nat := nodes * (1 + slots * (1 + labels + definitions))

/-- How many visits the analysis of a function takes at most. -/
noncomputable def visitBound (frame : Frame) (inputs : KeyMap TaintSet) : Nat :=
  mostVisits frame.function.nodes.size (frame.occurringSlots inputs).ncard (frame.occurringLabels inputs).ncard
    (frame.occurringDefinitions inputs).ncard

theorem contains_of_path {f : Function} (hclosed : f.Closed) {ids : List String} {id : String}
    (h : f.Path ids id) : f.nodes.contains id = true := by
  cases h with
  | entry => exact hclosed.entry
  | step _ hnode hsucc => exact hclosed.succ _ _ hnode _ hsucc

theorem gained_subset (hclosed : frame.function.Closed) (hinv : frame.Invariant inputs p) (hp : p.Grounded) :
    p.gained ⊆ {id | id ∈ frame.function.nodes.keys} ×ˢ State.gains (frame.occurringSlots inputs)
      (frame.occurringLabels inputs) (frame.occurringDefinitions inputs) := by
  rintro ⟨id, g⟩ ⟨s, hs, hg⟩
  have hexplained := hinv.explained id s hs
  have hslot : ∀ {x}, s.Mentions x → x ∈ frame.occurringSlots inputs := fun hx => by
    obtain ⟨d, hd⟩ := hp id s hs _ hx
    obtain ⟨ids, hpath, hd⟩ := hexplained.definedBy _ d hd
    exact ⟨ids, id, d, hpath, hd⟩
  constructor
  · obtain ⟨ids, hpath⟩ := hexplained.reached
    exact Table.mem_keys_iff.2 (Option.isSome_iff_exists.1 (contains_of_path hclosed hpath))
  · cases g with
    | reached => exact Or.inl rfl
    | tracked x => exact Or.inr (Or.inl ⟨x, hslot (Or.inl hg), rfl⟩)
    | carries x i =>
      obtain ⟨taint, htaint, -⟩ := OrderedMap.has_getD_iff.1 hg
      obtain ⟨ids, hpath, hi⟩ := hexplained.carries x i hg
      exact Or.inr (Or.inr (Or.inl ⟨(x, i), ⟨hslot (Or.inl ⟨taint, htaint⟩), ids, id, x, hpath, hi⟩, rfl⟩))
    | definedBy x d =>
      obtain ⟨ids, hpath, hd⟩ := hexplained.definedBy x d hg
      exact Or.inr (Or.inr (Or.inr ⟨(x, d), ⟨⟨ids, id, d, hpath, hd⟩, ids, id, x, hpath, hd⟩, rfl⟩))

/-- **A worklist takes no more visits than the bound**, in whatever order it takes its nodes. -/
theorem visits_add_length_le_visitBound (hclosed : frame.function.Closed)
    (h : Relation.ReflTransGen frame.Visits (frame.start inputs) p) :
    p.visits + p.queue.length ≤ frame.visitBound inputs := by
  obtain ⟨hgrounded, hpaid⟩ := visits_add_length_le h
  have hslots := frame.finite_occurringSlots inputs
  have hlabels := frame.finite_occurringLabels inputs
  have hdefinitions := frame.finite_occurringDefinitions inputs
  have hnodes : ({id | id ∈ frame.function.nodes.keys} : Set String).ncard ≤ frame.function.nodes.size := by
    have hcoe : ({id | id ∈ frame.function.nodes.keys} : Set String) = frame.function.nodes.keys.toFinset := by
      ext id
      simp
    rw [hcoe, Set.ncard_coe_finset]
    exact (List.toFinset_card_le _).trans (List.length_map _).le
  calc p.visits + p.queue.length ≤ p.gained.ncard := hpaid
    _ ≤ ({id | id ∈ frame.function.nodes.keys} ×ˢ State.gains (frame.occurringSlots inputs)
          (frame.occurringLabels inputs) (frame.occurringDefinitions inputs)).ncard :=
        Set.ncard_le_ncard (gained_subset hclosed (invariant_of_visits h) hgrounded)
          ((List.finite_toSet _).prod (State.finite_gains hslots hlabels hdefinitions))
    _ ≤ frame.visitBound inputs := by
        rw [Set.ncard_prod]
        exact Nat.mul_le_mul hnodes (State.ncard_gains_le hslots hlabels hdefinitions)

/-! ### The loop without its budget -/

/-- What the loop comes to if nothing is said of a budget. -/
inductive Ends (frame : Frame) : Progress → Result Progress → Prop
  | done {p : Progress} (hqueue : p.queue = []) : Ends frame p (.ok p)
  | fault {p : Progress} {id : String} {queue : List String} {n : Node} {fault : Fault}
      (hqueue : p.queue = id :: queue) (hnode : frame.function.node? id = some n)
      (hfault : frame.fault? id n (p.before.getD id .empty) = some fault) : Ends frame p (.error fault)
  | visit {p : Progress} {id : String} {queue : List String} {n : Node} {r : Result Progress}
      (hqueue : p.queue = id :: queue) (hnode : frame.function.node? id = some n)
      (hfault : frame.fault? id n (p.before.getD id .empty) = none)
      (hrest : Ends frame (frame.visit { p with queue := queue, visits := p.visits + 1 } id n) r) : Ends frame p r

variable {id : String} {queue : List String} {n : Node} {r : Result Progress}

theorem visits_head (hqueue : p.queue = id :: queue) (hnode : frame.function.node? id = some n) :
    frame.Visits p (frame.visit { p with queue := queue, visits := p.visits + 1 } id n) := by
  refine ⟨id, n, hqueue ▸ List.mem_cons_self, hnode, ?_⟩
  rw [hqueue, List.erase_cons_head]

/-- Nodes are queued only if control can come to them. -/
theorem exists_node_of_head (hclosed : frame.function.Closed)
    (h : Relation.ReflTransGen frame.Visits (frame.start inputs) p) (hqueue : p.queue = id :: queue) :
    ∃ n, frame.function.node? id = some n := by
  have hinv := invariant_of_visits h
  obtain ⟨s, hs⟩ := hinv.queued id (hqueue ▸ List.mem_cons_self)
  obtain ⟨ids, hpath⟩ := (hinv.explained id s hs).reached
  exact Option.isSome_iff_exists.1 (contains_of_path hclosed hpath)

/-- **The loop ends without its budget.** -/
theorem exists_ends (hclosed : frame.function.Closed)
    (h : Relation.ReflTransGen frame.Visits (frame.start inputs) p) : ∃ r, frame.Ends p r := by
  induction hleft : frame.visitBound inputs - p.visits using Nat.strong_induction_on generalizing p with
  | _ left ih =>
    cases hqueue : p.queue with
    | nil => exact ⟨.ok p, .done hqueue⟩
    | cons id queue =>
      obtain ⟨n, hnode⟩ := exists_node_of_head hclosed h hqueue
      cases hfault : frame.fault? id n (p.before.getD id .empty) with
      | some fault => exact ⟨.error fault, .fault hqueue hnode hfault⟩
      | none =>
        have hvisit := visits_head hqueue hnode
        have hone := visits_of_visit hvisit
        have hbound := visits_add_length_le_visitBound hclosed (h.tail hvisit)
        obtain ⟨r, hr⟩ := ih _ (by omega) (h.tail hvisit) rfl
        exact ⟨r, .visit hqueue hnode hfault hr⟩

/-- A node that is queued has not been visited yet, so some of a large enough budget is left for it. -/
theorem exists_left (hclosed : frame.function.Closed)
    (h : Relation.ReflTransGen frame.Visits (frame.start inputs) p) (hqueue : p.queue = id :: queue) {fuel : Nat}
    (hfuel : frame.visitBound inputs ≤ p.visits + fuel) : ∃ left, fuel = left + 1 := by
  have hbound := visits_add_length_le_visitBound hclosed h
  rw [hqueue, List.length_cons] at hbound
  exact Nat.exists_eq_succ_of_ne_zero (by omega)

/-- A budget that is large enough is never used up. -/
theorem Ends.loop_eq (hends : frame.Ends p r) (hclosed : frame.function.Closed)
    (h : Relation.ReflTransGen frame.Visits (frame.start inputs) p) (budget : Amount) {fuel : Nat}
    (hfuel : frame.visitBound inputs ≤ p.visits + fuel) : frame.loop budget fuel p = r := by
  induction hends generalizing fuel with
  | done hqueue => rw [loop, hqueue]
  | fault hqueue hnode hfault =>
    obtain ⟨left, rfl⟩ := exists_left hclosed h hqueue hfuel
    rw [loop, hqueue]
    dsimp only
    rw [hnode]
    dsimp only
    rw [hfault]
  | visit hqueue hnode hfault _ ih =>
    obtain ⟨left, rfl⟩ := exists_left hclosed h hqueue hfuel
    rw [loop, hqueue]
    dsimp only
    rw [hnode]
    dsimp only
    rw [hfault]
    have hvisit := visits_head hqueue hnode
    have hone := visits_of_visit hvisit
    exact ih (h.tail hvisit) (by omega)

/-- The loop stops early only where a node cannot be passed. -/
theorem Ends.isLocal (hends : frame.Ends p r) {fault : Fault} (hr : r = .error fault) : fault.isLocal = false := by
  induction hends with
  | done => cases hr
  | fault _ _ hfault =>
    cases hr
    exact isLocal_of_fault? hfault
  | visit _ _ _ _ ih => exact ih hr

theorem Ends.exists_ok (hends : frame.Ends p r) (hnamed : frame.function.Named) (happlies : frame.Applies) :
    ∃ q, r = .ok q := by
  induction hends with
  | @done p _ => exact ⟨p, rfl⟩
  | @fault p id _ n _ _ hnode hfault =>
    rw [happlies.fault?_eq_none (hnamed.nodes id n hnode)] at hfault
    cases hfault
  | visit _ _ _ _ ih => exact ih

theorem analyze_of_ends (hsearchable : frame.function.isSearchable = true) (hclosed : frame.function.Closed)
    (hends : frame.Ends (frame.start inputs) r) {maxVisits : Int}
    (hbudget : (frame.visitBound inputs : Int) ≤ maxVisits * (max 1 frame.function.nodes.size : Nat)) :
    frame.analyze (.whole maxVisits) inputs = r.map frame.finish := by
  have hfuel : frame.visitBound inputs ≤ (frame.start inputs).visits +
      ((frame.budget (.whole maxVisits)).bound?.getD ampleVisits) := by
    rw [bound?_budget, Option.getD_some]
    omega
  unfold analyze
  rw [if_pos hsearchable]
  dsimp only
  rw [hends.loop_eq hclosed .refl _ hfuel]
  cases r <;> rfl

/-- **The analysis of a function ends without its budget.**  Finitely many slots, labels and definitions occur in
it, and their numbers bound the visits, in whatever order the worklist takes its nodes.  Every budget that allows
for them leads to one result, which is not that the budget was used up.  It is an analysis if what the function
and the effects name can be searched by. -/
theorem analyze_of_visitBound_le (frame : Frame) {known : Names} (hvalid : frame.function.isValid known = true)
    (inputs : KeyMap TaintSet) :
    (frame.occurringSlots inputs).Finite ∧ (frame.occurringLabels inputs).Finite ∧
      (frame.occurringDefinitions inputs).Finite ∧
      (∀ p, Relation.ReflTransGen frame.Visits (frame.start inputs) p → p.visits ≤ frame.visitBound inputs) ∧
      ∃ r, (∀ maxVisits : Int,
          (frame.visitBound inputs : Int) ≤ maxVisits * (max 1 frame.function.nodes.size : Nat) →
          frame.analyze (.whole maxVisits) inputs = r) ∧
        (∀ function budget visits, r ≠ .error (.divergent function budget visits)) ∧
        (frame.function.Named → frame.Applies → ∃ a, r = .ok a) := by
  have hclosed := Function.closed_of_isValid hvalid
  refine ⟨frame.finite_occurringSlots inputs, frame.finite_occurringLabels inputs,
    frame.finite_occurringDefinitions inputs,
    fun p hp => (Nat.le_add_right _ _).trans (visits_add_length_le_visitBound hclosed hp), ?_⟩
  by_cases hsearchable : frame.function.isSearchable = true
  · obtain ⟨r, hends⟩ := exists_ends (p := frame.start inputs) hclosed .refl
    refine ⟨r.map frame.finish, fun maxVisits hbudget => analyze_of_ends hsearchable hclosed hends hbudget,
      fun function budget visits he => ?_, fun hnamed happlies => ?_⟩
    · cases r with
      | error fault =>
        cases he
        cases hends.isLocal rfl
      | ok q => cases he
    · obtain ⟨q, rfl⟩ := hends.exists_ok hnamed happlies
      exact ⟨frame.finish q, rfl⟩
  · exact ⟨.error .wrongKind, fun maxVisits _ => if_neg hsearchable, nofun,
      fun hnamed _ => absurd hnamed.isSearchable hsearchable⟩

/-- The labels that go around the loop are collected in a bounded number of visits. -/
theorem exists_analyze_collector : collector.function.isValid (.singleton "f") = true ∧ ∃ a, ∀ maxVisits : Int,
    (collector.visitBound (collector.function.symbolicInputs ∅) : Int) ≤ maxVisits * 2 →
      collector.analyze (.whole maxVisits) (collector.function.symbolicInputs ∅) = .ok a := by
  have hvalid : collector.function.isValid (.singleton "f") = true := by decide +kernel
  obtain ⟨-, -, -, -, r, hr, -, hok⟩ :=
    collector.analyze_of_visitBound_le hvalid (collector.function.symbolicInputs ∅)
  obtain ⟨a, rfl⟩ := hok (by decide +kernel) (fun _ _ h => nomatch h)
  exact ⟨hvalid, a, hr⟩

end Frame

end TaintFlow
