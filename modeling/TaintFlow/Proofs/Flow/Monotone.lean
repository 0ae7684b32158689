import Mathlib.Data.List.Induction
import TaintFlow.Proofs.Flow.Callees
import TaintFlow.Proofs.Flow.Linear

/-!
# More effects and more inputs, more flows

If the effects that an analysis looks up say more, so does the state at its end (`within_exit`), since
every node is wired to do more and the paths of control stay what they are.  If the inputs hold more, the
paths yield more (`Yields.mono`).  What the state at the end
of a symbolic run can hold at all is known before the run: markers of inputs, labels that are fresh or
that called functions are said to make, and the definitions of the entry and of the nodes.
-/

namespace TaintFlow

/-- The second effect does all that the first one does at a call. -/
structure Effect.Below (e e' : Effect) : Prop where
  unknown : e.unknown = e'.unknown
  flows : ∀ t ∈ e.transfers, ∃ t' ∈ e'.transfers, t'.input = t.input ∧ t'.output = t.output
  makes : ∀ output i, (e.generated.getD output ∅).has i = true →
    (e'.generated.getD output ∅).has i = true
  writes : ∀ output ∈ e.exitDefs.keys, output ∈ e'.exitDefs.keys

namespace Effect.Below

variable {e e' e'' : Effect}

theorem refl (e : Effect) : e.Below e :=
  ⟨rfl, fun t ht => ⟨t, ht, rfl, rfl⟩, fun _ _ h => h, fun _ h => h⟩

theorem trans (h : e.Below e') (h' : e'.Below e'') : e.Below e'' where
  unknown := h.unknown.trans h'.unknown
  flows t ht := by
    obtain ⟨t', ht', hinput, houtput⟩ := h.flows t ht
    obtain ⟨t'', ht'', hinput', houtput'⟩ := h'.flows t' ht'
    exact ⟨t'', ht'', hinput'.trans hinput, houtput'.trans houtput⟩
  makes output i hi := h'.makes output i (h.makes output i hi)
  writes output ho := h'.writes output (h.writes output ho)

theorem pending (h : e.unknown = false) : Effect.pending.Below e where
  unknown := h.symm
  flows t ht := absurd ht (OrderedSet.not_mem_empty t)
  makes output i hi := by cases hi
  writes output ho := by cases ho

theorem feeds (h : e.Below e') {n : Node} {y : Slot} {output : Atom} (hf : e.Feeds n y output) :
    e'.Feeds n y output := by
  obtain ⟨t, ht, hout, input, hinput, hy⟩ := hf
  obtain ⟨t', ht', hinput', houtput'⟩ := h.flows t ht
  exact ⟨t', ht', houtput'.trans hout, input, hinput'.trans hinput, hy⟩

theorem wiring (h : e.Below e') (globals : Names) (n : Node) :
    (e.wiring globals n).Below (e'.wiring globals n) := by
  have hmakes : ∀ {output : Atom} {i : Identity}, e.Makes output i → e'.Makes output i := by
    rintro output i ⟨name, rfl, hi⟩
    exact ⟨name, rfl, h.makes name i hi⟩
  refine ⟨?_, ?_, fun x hx => hx, ?_, ?_⟩
  · rintro y x (hkept | ⟨output, hlands, hfeeds⟩)
    · exact Or.inl hkept
    · exact Or.inr ⟨output, hlands, h.feeds hfeeds⟩
  · rintro x i ⟨output, hlands, hi⟩
    exact ⟨output, hlands, hmakes hi⟩
  · rintro x (htarget | ⟨output, hslot, i, hi⟩ | ⟨output, hout, hname⟩)
    · exact Or.inl htarget
    · exact Or.inr (Or.inl ⟨output, hslot, i, hmakes hi⟩)
    · exact Or.inr (Or.inr ⟨output, h.writes output hout, hname⟩)
  · rintro y x ⟨output, hslot, hfeeds⟩
    exact ⟨output, hslot, h.feeds hfeeds⟩

end Effect.Below

namespace Frame

variable {frame : Frame} {effects : String → Option Effect} {inputs : KeyMap TaintSet}
  {visits visits' : Amount} {a a' : Analysis}

/-- The other effects say all that the effects of the frame say. -/
def Raises (frame : Frame) (effects : String → Option Effect) : Prop :=
  ∀ callee, ((frame.effects callee).getD .pending).Below ((effects callee).getD .pending)

theorem Raises.callWiring (h : frame.Raises effects) (n : Node) :
    (frame.callWiring n).Below ((frame.withEffects effects).callWiring n) := by
  have hcallee : (frame.withEffects effects).calleeOf n = frame.calleeOf n := rfl
  have heffects : (frame.withEffects effects).effects = effects := rfl
  have hrules : (frame.withEffects effects).rules = frame.rules := rfl
  unfold Frame.callWiring role
  rw [hcallee, heffects, hrules]
  cases frame.rules.source? n.api with
  | some rule => exact .refl _
  | none =>
    dsimp only
    by_cases hsanitizer : frame.rules.isSanitizer n.api = true
    · rw [if_pos hsanitizer, if_pos hsanitizer]
      exact .refl _
    · rw [if_neg hsanitizer, if_neg hsanitizer]
      cases frame.calleeOf n with
      | none => exact .refl _
      | some callee =>
        dsimp only
        have hbelow := h callee
        rw [← hbelow.unknown]
        by_cases hunknown : ((frame.effects callee).getD .pending).unknown = true
        · rw [if_pos hunknown, if_pos hunknown]
          exact .refl _
        · rw [if_neg hunknown, if_neg hunknown]
          exact hbelow.wiring frame.globals n

theorem Raises.wiring (h : frame.Raises effects) (n : Node) :
    (frame.wiring n).Below ((frame.withEffects effects).wiring n) := by
  unfold Frame.wiring
  cases n.kind with
  | call => exact h.callWiring n
  | _ => exact .refl _

theorem Raises.within_pass (h : frame.Raises effects) (id : String) {s t : State}
    (hst : s.Within t) : (frame.pass s id).Within ((frame.withEffects effects).pass t id) := by
  have hnode : (frame.withEffects effects).function.node? id = frame.function.node? id := rfl
  unfold pass
  rw [hnode]
  cases frame.function.node? id with
  | none => exact hst
  | some n =>
    exact (frame.describes_transfer id n).within ((frame.withEffects effects).describes_transfer id n)
      (h.wiring n) hst

theorem Raises.within_along (h : frame.Raises effects) (ids : List String) {s t : State}
    (hst : s.Within t) : (frame.along s ids).Within ((frame.withEffects effects).along t ids) := by
  induction ids generalizing s t with
  | nil => exact hst
  | cons id rest ih => exact ih (h.within_pass id hst)

/-- **The more the effects of called functions say, the more leaves the function.** -/
theorem Raises.within_exit (h : frame.Raises effects) (ha : frame.analyze visits inputs = .ok a)
    (ha' : (frame.withEffects effects).analyze visits' inputs = .ok a') :
    a.exit.Within a'.exit := by
  obtain ⟨p, hp, rfl⟩ := analyze_eq_ok ha
  obtain ⟨q, hq, rfl⟩ := analyze_eq_ok ha'
  have hwithin : ∀ ids, (frame.arriving inputs ids).Within
      ((frame.withEffects effects).arriving inputs ids) :=
    fun ids => h.within_along ids (.refl _)
  constructor
  · intro x i hi
    obtain ⟨ids, id, hpath, hleaves, hc⟩ :=
      ((invariant_of_visits hp.1).carries_exitState_iff hp.2 x i).1 hi
    exact ((invariant_of_visits hq.1).carries_exitState_iff hq.2 x i).2
      ⟨ids, id, hpath, hleaves, (hwithin _).1 x i hc⟩
  · intro x d hd
    obtain ⟨ids, id, hpath, hleaves, hc⟩ :=
      ((invariant_of_visits hp.1).definedBy_exitState_iff hp.2 x d).1 hd
    exact ((invariant_of_visits hq.1).definedBy_exitState_iff hq.2 x d).2
      ⟨ids, id, hpath, hleaves, (hwithin _).2 x d hc⟩

/-! ### More inputs -/

theorem defs_foldl_eq {α : Type} {step step' : State → α → State}
    (hstep : ∀ s t a, s.defs = t.defs → (step s a).defs = (step' t a).defs) (l : List α) {s t : State}
    (h : s.defs = t.defs) : (l.foldl step s).defs = (l.foldl step' t).defs := by
  induction l generalizing s t with
  | nil => exact h
  | cons a rest ih => exact ih (hstep s t a h)

theorem defs_assign_eq {s t : State} (h : s.defs = t.defs) (x : Slot) (taint taint' : TaintSet)
    (d : String) : (s.assign x taint d).defs = (t.assign x taint' d).defs :=
  congrArg (fun defs => defs.set x (.singleton d)) h

/-- The definitions before the entry do not depend on the inputs. -/
theorem defs_foldl_params (f : Function) (inputs inputs' : KeyMap TaintSet) :
    (f.indexedParams.foldl (fun (s : State) (i, p) =>
      s.assign (.text p.name) (inputs.getD (.text p.name) ∅) (f.paramKey i)) State.empty).defs =
    (f.indexedParams.foldl (fun (s : State) (i, p) =>
      s.assign (.text p.name) (inputs'.getD (.text p.name) ∅) (f.paramKey i)) State.empty).defs := by
  refine defs_foldl_eq (fun s t entry h => ?_) _ rfl
  exact defs_assign_eq h _ _ _ _

theorem defs_entryState (frame : Frame) (inputs inputs' : KeyMap TaintSet) :
    (frame.entryState inputs).defs = (frame.entryState inputs').defs := by
  unfold entryState
  dsimp only
  refine defs_foldl_eq (fun s t name h => ?_) _ ?_
  · rw [h]
    split
    · exact h
    · exact defs_assign_eq h _ _ _ _
  · have hparams := defs_foldl_params frame.function inputs inputs'
    cases frame.function.receiverSlot? with
    | none => exact hparams
    | some receiver => exact defs_assign_eq hparams _ _ _ _

theorem within_entryState {inputs inputs' : KeyMap TaintSet} (h : TaintsWithin inputs inputs') :
    (frame.entryState inputs).Within (frame.entryState inputs') := by
  constructor
  · intro x i hi
    obtain ⟨hinput, hi⟩ := carries_entryState_iff.1 hi
    exact carries_entryState_iff.2 ⟨hinput, h x i hi⟩
  · intro x d hd
    unfold State.DefinedBy State.defsOf at hd ⊢
    rwa [frame.defs_entryState inputs' inputs]

theorem within_arriving {inputs inputs' : KeyMap TaintSet} (h : TaintsWithin inputs inputs')
    (ids : List String) : (frame.arriving inputs ids).Within (frame.arriving inputs' ids) := by
  induction ids using List.reverseRecOn with
  | nil => exact within_entryState h
  | append_singleton ids id ih =>
    unfold arriving at ih ⊢
    rw [along_concat, along_concat]
    exact (frame.describes_pass id).mono ih

/-- **The more the inputs hold, the more the paths yield.** -/
theorem Yields.mono {inputs inputs' : KeyMap TaintSet} (h : TaintsWithin inputs inputs') {fact : Fact}
    (hfact : frame.Yields inputs fact) : frame.Yields inputs' fact := by
  have hbrings : ∀ {id x i}, frame.Brings inputs id x i → frame.Brings inputs' id x i := by
    rintro id x i ⟨ids, hpath, hc⟩
    exact ⟨ids, hpath, (within_arriving h ids).1 x i hc⟩
  cases fact with
  | reached id => exact hfact
  | defined id x d =>
    obtain ⟨ids, hpath, hd⟩ := hfact
    exact ⟨ids, hpath, (within_arriving h ids).2 x d hd⟩
  | sink id api arity => exact hfact
  | sinkArg id index i =>
    obtain ⟨n, x, hn, hsink, hx, hi⟩ := hfact
    exact ⟨n, x, hn, hsink, hx, hbrings hi⟩
  | call id callee arity => exact hfact
  | callArg id index i =>
    obtain ⟨n, x, callee, hn, hcall, hx, hi⟩ := hfact
    exact ⟨n, x, callee, hn, hcall, hx, hbrings hi⟩
  | callReceiver id i =>
    obtain ⟨n, x, callee, hn, hcall, hx, hi⟩ := hfact
    exact ⟨n, x, callee, hn, hcall, hx, hbrings hi⟩
  | exit x i =>
    obtain ⟨ids, id, hpath, hleaves, hc⟩ := hfact
    exact ⟨ids, id, hpath, hleaves, (within_arriving h _).1 x i hc⟩
  | exitDefined x d =>
    obtain ⟨ids, id, hpath, hleaves, hd⟩ := hfact
    exact ⟨ids, id, hpath, hleaves, (within_arriving h _).2 x d hd⟩

/-! ### What a run can find at all -/

/-- A definition is there from the start or belongs to a node that defines the slot. -/
theorem definedBy_along {ids : List String} {s : State} {x : Slot} {d : String}
    (h : (frame.along s ids).DefinedBy x d) : s.DefinedBy x d ∨ ∃ id n,
      frame.function.node? id = some n ∧ d = frame.function.key id ∧ (frame.wiring n).Defines x := by
  induction ids generalizing s with
  | nil => exact Or.inl h
  | cons id rest ih =>
    rcases ih h with hpass | hnode
    · unfold pass at hpass
      cases hn : frame.function.node? id with
      | none =>
        rw [hn] at hpass
        exact Or.inl hpass
      | some n =>
        rw [hn] at hpass
        rcases ((frame.describes_transfer id n).definedBy_iff s x d).1 hpass with ⟨-, hs⟩ | ⟨hd, hdefines⟩
        · exact Or.inl hs
        · exact Or.inr ⟨id, n, hn, hd, hdefines.imp_right fun ⟨y, hy, _⟩ => ⟨y, hy⟩⟩
    · exact Or.inr hnode

theorem definedBy_exit (h : frame.analyze visits inputs = .ok a) {x : Slot} {d : String}
    (hd : a.exit.DefinedBy x d) : (frame.entryState inputs).DefinedBy x d ∨
      ∃ id n, frame.function.node? id = some n ∧ d = frame.function.key id := by
  obtain ⟨p, hp, rfl⟩ := analyze_eq_ok h
  obtain ⟨ids, id, -, -, hd⟩ :=
    ((invariant_of_visits hp.1).definedBy_exitState_iff hp.2 x d).1 hd
  exact (definedBy_along hd).imp_right fun ⟨id, n, hnode, he, _⟩ => ⟨id, n, hnode, he⟩

end Frame

end TaintFlow
