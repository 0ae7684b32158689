import TaintFlow.Proofs.Flow.Monotone

/-!
# Labels that spread further

With other rules and other effects a function may be analysed quite differently, and still no label is
lost, as long as every call does with labels all that it did before (`Frame.Spreads`).  Only labels are
compared here, not definitions, and of an effect only what flows between different markers: whether an
output is said to keep its own value depends on the ways that labels took.  That a slot keeps its own value
is no matter, since it keeps it anyway, unless the call overwrites it (`Effect.KeepsOwn`).

Definitions are not needed to tell what a function has written: a label that did not stand in a slot from
the start leaves a definition there (`definedBy_or_carries_of_carries_along`).
-/

namespace TaintFlow

def State.Spreads (s t : State) : Prop := ∀ x i, s.Carries x i → t.Carries x i

/-- The second wiring does with labels all that the first one does. -/
structure Wiring.Spreads (w w' : Wiring) : Prop where
  moves : ∀ y x, w.moves y x → w'.moves y x
  makes : ∀ x i, w.makes x i → w'.makes x i

namespace Wiring

theorem Spreads.refl (w : Wiring) : w.Spreads w := ⟨fun _ _ h => h, fun _ _ h => h⟩

theorem Describes.spreads {w w' : Wiring} {key key' : String} {f f' : State → State}
    (h : w.Describes key f) (h' : w'.Describes key' f') (hspreads : w.Spreads w') {s t : State}
    (hst : s.Spreads t) : (f s).Spreads (f' t) := by
  intro x i hx
  rw [h.carries_iff] at hx
  rw [h'.carries_iff]
  rcases hx with hm | ⟨y, hy, hc⟩
  · exact Or.inl (hspreads.makes x i hm)
  · exact Or.inr ⟨y, hspreads.moves y x hy, hst y i hc⟩

/-- A result that nothing goes into is no less than what is made in its place. -/
theorem spreads_result {target : Option Slot} {reads : List Slot} (h : target = none ∨ reads = [])
    (made : Identity → Prop) :
    (result target reads (fun _ => False)).Spreads (result target [] made) := by
  rcases h with rfl | rfl
  · exact .refl _
  · cases target with
    | none => exact .refl _
    | some slot => exact ⟨fun _ _ hm => hm, fun _ _ hm => hm.2.elim⟩

end Wiring

/-! ### Effects -/

/-- The second effect has the flows of the first one between different markers, and makes its labels. -/
structure Effect.Spreads (e e' : Effect) : Prop where
  flows : ∀ t ∈ e.transfers, t.input ≠ t.output →
    ∃ t' ∈ e'.transfers, t'.input = t.input ∧ t'.output = t.output
  makes : ∀ output i, (e.generated.getD output ∅).has i = true →
    (e'.generated.getD output ∅).has i = true

/-- Where an output is given its own value at the call, it is the slot's own value, and the result of the
call is kept elsewhere. -/
def Effect.KeepsOwn (e : Effect) (n : Node) : Prop :=
  ∀ t ∈ e.transfers, t.input = t.output → ∀ input, t.input = .text input → ∀ y x,
    n.inputSlot? input = some y → Effect.Lands n t.output x → y = x ∧ n.targetSlot? ≠ some x

namespace Effect

variable {e e' : Effect}

theorem Spreads.pending (e : Effect) : Effect.pending.Spreads e where
  flows t ht := absurd ht (OrderedSet.not_mem_empty t)
  makes output i hi := by cases hi

theorem Spreads.wiring (h : e.Spreads e') {n : Node} (hkeeps : e.KeepsOwn n) (globals : Names) :
    (e.wiring globals n).Spreads (e'.wiring globals n) where
  moves y x := by
    rintro (hkept | ⟨output, hlands, t, ht, rfl, input, hinput, hy⟩)
    · exact Or.inl hkept
    · by_cases hown : t.input = t.output
      · obtain ⟨hsame, htarget⟩ := hkeeps t ht hown input hinput y x hy hlands
        exact Or.inl ⟨htarget, hsame⟩
      · obtain ⟨t', ht', hinput', houtput'⟩ := h.flows t ht hown
        exact Or.inr ⟨t.output, hlands, t', ht', houtput', input, hinput'.trans hinput, hy⟩
  makes x i := by
    rintro ⟨output, hlands, name, rfl, hi⟩
    exact ⟨.text name, hlands, name, rfl, h.makes name i hi⟩

end Effect

/-! ### Calls -/

/-- In the second role a call does with labels all that it does in the first one. -/
inductive CallRole.Spreads (n : Node) : CallRole → CallRole → Prop
  | source (rule : SourceRule) : Spreads n (.source rule) (.source rule)
  | sanitizer : Spreads n .sanitizer .sanitizer
  | resolved (callee : String) {e e' : Effect} (h : e.Spreads e') (hkeeps : e.KeepsOwn n) :
      Spreads n (.resolved callee e) (.resolved callee e')
  | degraded : Spreads n .degraded .degraded
  | unresolved : Spreads n .unresolved .unresolved
  /-- A call that is given nothing, or of which the result is not kept, becomes a source. -/
  | tapped (rule : SourceRule) (h : n.targetSlot? = none ∨ n.passedSlots = []) :
      Spreads n .unresolved (.source rule)

def Fact.IsFlow : Fact → Prop
  | .reached _ | .defined _ _ _ | .exitDefined _ _ => False
  | _ => True

namespace Frame

def under (frame : Frame) (rules : Registry) (effects : String → Option Effect) : Frame :=
  { frame with rules := rules, effects := effects }

/-- With other rules and effects the function has the same sinks, and its calls do with labels all that
they did. -/
structure Spreads (frame : Frame) (rules : Registry) (effects : String → Option Effect) : Prop where
  sinks : ∀ api, rules.sink? api = frame.rules.sink? api
  roles : ∀ id n, frame.function.node? id = some n → n.kind = .call →
    CallRole.Spreads n (frame.role n) ((frame.under rules effects).role n)

variable {frame : Frame} {rules : Registry} {effects : String → Option Effect} {id : String} {n : Node}

theorem says_under {exit : State} {seen : Observations} {fact : Fact} :
    (frame.under rules effects).Says exit seen fact ↔ frame.Says exit seen fact := by
  cases fact <;> exact Iff.rfl

theorem wiring_of_call (h : n.kind = .call) : frame.wiring n = frame.callWiring n := by
  unfold wiring
  rw [h]

theorem spreads_callWiring
    (h : CallRole.Spreads n (frame.role n) ((frame.under rules effects).role n)) :
    (frame.callWiring n).Spreads ((frame.under rules effects).callWiring n) := by
  unfold callWiring
  generalize frame.role n = role at h
  generalize (frame.under rules effects).role n = role' at h
  cases h with
  | resolved callee h hkeeps => exact h.wiring hkeeps _
  | tapped rule h =>
    have hnone : Wiring.Spreads (.result n.targetSlot? n.passedSlots (fun _ => False))
        (.result n.targetSlot? [] (fun i => i = ⟨.singleton rule.origin, rule.context, ∅⟩)) :=
      Wiring.spreads_result h _
    exact hnone
  | _ => exact .refl _

namespace Spreads

variable (h : frame.Spreads rules effects)

include h

theorem wiring (hn : frame.function.node? id = some n) :
    (frame.wiring n).Spreads ((frame.under rules effects).wiring n) := by
  by_cases hkind : n.kind = .call
  · rw [wiring_of_call hkind, wiring_of_call hkind]
    exact spreads_callWiring (h.roles id n hn hkind)
  · have hsame : (frame.under rules effects).wiring n = frame.wiring n := by
      unfold Frame.wiring
      cases hk : n.kind with
      | call => exact absurd hk hkind
      | _ => rfl
    rw [hsame]
    exact .refl _

theorem calls (hn : frame.function.node? id = some n) {callee : String} (hcalls : frame.Calls n callee) :
    (frame.under rules effects).Calls n callee := by
  obtain ⟨hkind, effect, hrole⟩ := hcalls
  have hroles := h.roles id n hn hkind
  rw [hrole] at hroles
  generalize hrole' : (frame.under rules effects).role n = role' at hroles
  cases hroles with
  | resolved _ _ _ => exact ⟨hkind, _, hrole'⟩

theorem isSink (hsink : frame.IsSink n) : (frame.under rules effects).IsSink n := by
  refine ⟨hsink.1, ?_⟩
  have hsame : (frame.under rules effects).rules.sink? n.api = frame.rules.sink? n.api := h.sinks n.api
  rw [hsame]
  exact hsink.2

theorem spreads_pass (id : String) {s t : State} (hst : s.Spreads t) :
    (frame.pass s id).Spreads ((frame.under rules effects).pass t id) := by
  refine (frame.describes_pass id).spreads ((frame.under rules effects).describes_pass id) ?_ hst
  have hnode : (frame.under rules effects).function.node? id = frame.function.node? id := rfl
  unfold wiringAt
  rw [hnode]
  cases hn : frame.function.node? id with
  | none => exact .refl _
  | some n => exact h.wiring hn

theorem spreads_arriving {inputs inputs' : KeyMap TaintSet} (hinputs : TaintsWithin inputs inputs')
    (ids : List String) : (frame.arriving inputs ids).Spreads
      ((frame.under rules effects).arriving inputs' ids) := by
  induction ids using List.reverseRecOn with
  | nil =>
    intro x i hi
    obtain ⟨hinput, hi⟩ := carries_entryState_iff.1 hi
    exact carries_entryState_iff.2 ⟨hinput, hinputs x i hi⟩
  | append_singleton ids id ih =>
    unfold arriving at ih ⊢
    rw [along_concat, along_concat]
    exact h.spreads_pass id ih

/-- **Every flow that the paths yield they still yield**, from inputs that hold no less. -/
theorem yields {inputs inputs' : KeyMap TaintSet} (hinputs : TaintsWithin inputs inputs') {fact : Fact}
    (hflow : fact.IsFlow) (hfact : frame.Yields inputs fact) :
    (frame.under rules effects).Yields inputs' fact := by
  have hbrings : ∀ {id x i}, frame.Brings inputs id x i →
      (frame.under rules effects).Brings inputs' id x i := by
    rintro id x i ⟨ids, hpath, hc⟩
    exact ⟨ids, hpath, h.spreads_arriving hinputs ids x i hc⟩
  cases fact with
  | reached id => exact hflow.elim
  | defined id x d => exact hflow.elim
  | sink id api arity =>
    obtain ⟨hreached, n, hn, hsink, hrest⟩ := hfact
    exact ⟨hreached, n, hn, h.isSink hsink, hrest⟩
  | sinkArg id index i =>
    obtain ⟨n, x, hn, hsink, hx, hi⟩ := hfact
    exact ⟨n, x, hn, h.isSink hsink, hx, hbrings hi⟩
  | call id callee arity =>
    obtain ⟨hreached, n, hn, hcall, hrest⟩ := hfact
    exact ⟨hreached, n, hn, h.calls hn hcall, hrest⟩
  | callArg id index i =>
    obtain ⟨n, x, callee, hn, hcall, hx, hi⟩ := hfact
    exact ⟨n, x, callee, hn, h.calls hn hcall, hx, hbrings hi⟩
  | callReceiver id i =>
    obtain ⟨n, x, callee, hn, hcall, hx, hi⟩ := hfact
    exact ⟨n, x, callee, hn, h.calls hn hcall, hx, hbrings hi⟩
  | exit x i =>
    obtain ⟨ids, id, hpath, hleaves, hc⟩ := hfact
    exact ⟨ids, id, hpath, hleaves, h.spreads_arriving hinputs _ x i hc⟩
  | exitDefined x d => exact hflow.elim

/-- **Every flow that an analysis finds the other analysis finds**, on inputs that hold no less. -/
theorem finds {visits visits' : Amount} {inputs inputs' : KeyMap TaintSet} {a b : Analysis}
    (ha : frame.analyze visits inputs = .ok a)
    (hb : (frame.under rules effects).analyze visits' inputs' = .ok b)
    (hinputs : TaintsWithin inputs inputs') {fact : Fact} (hflow : fact.IsFlow)
    (hfact : frame.Says a.exit a.seen fact) : frame.Says b.exit b.seen fact :=
  says_under.1 (((says_of_analyze hb).1 fact).2
    (h.yields hinputs hflow (((says_of_analyze ha).1 fact).1 hfact)))

end Spreads

end Frame

/-! ### Labels leave definitions -/

/-- Where the wiring puts a label it defines the slot, unless the slot had the label and keeps what it
had. -/
structure Wiring.Traced (w : Wiring) : Prop where
  made : ∀ x i, w.makes x i → w.writes x
  moved : ∀ y x, w.moves y x → (y = x ∧ w.keeps x) ∨ w.writes x ∨ w.wakes y x

namespace Wiring

theorem traced_idle : idle.Traced := ⟨fun _ _ h => h.elim, fun _ _ h => Or.inl ⟨h, trivial⟩⟩

theorem traced_overwrite (target : Slot) (reads : List Slot) (made : Identity → Prop) :
    (overwrite target reads made).Traced where
  made _ _ h := h.1
  moved y x := by
    rintro (⟨hne, rfl⟩ | ⟨rfl, -⟩)
    · exact Or.inl ⟨rfl, hne⟩
    · exact Or.inr (Or.inl rfl)

theorem traced_extend (target : Slot) (reads : List Slot) : (extend target reads).Traced where
  made _ _ h := h.elim
  moved y x := by
    rintro (rfl | ⟨rfl, -⟩)
    · exact Or.inl ⟨rfl, trivial⟩
    · exact Or.inr (Or.inl rfl)

theorem traced_result (target : Option Slot) (reads : List Slot) (made : Identity → Prop) :
    (result target reads made).Traced := by
  cases target with
  | none => exact traced_idle
  | some slot => exact traced_overwrite slot reads made

end Wiring

theorem Effect.traced_wiring (e : Effect) (globals : Names) (n : Node) :
    (e.wiring globals n).Traced where
  made x i := by
    rintro ⟨output, ⟨-, htarget⟩ | hslot, hi⟩
    · exact Or.inl htarget
    · exact Or.inr (Or.inl ⟨output, hslot, i, hi⟩)
  moved y x := by
    rintro (⟨htarget, rfl⟩ | ⟨output, ⟨-, htarget⟩ | hslot, hfeeds⟩)
    · exact Or.inl ⟨rfl, htarget⟩
    · exact Or.inr (Or.inl (Or.inl htarget))
    · exact Or.inr (Or.inr ⟨output, hslot, hfeeds⟩)

namespace Frame

variable {frame : Frame} {inputs : KeyMap TaintSet} {visits : Amount} {a : Analysis} {x : Slot}
  {i : Identity}

theorem traced_wiring (frame : Frame) (n : Node) : (frame.wiring n).Traced := by
  unfold wiring
  cases n.kind with
  | assign =>
    cases n.target.key? with
    | none => exact Wiring.traced_idle
    | some target => exact Wiring.traced_overwrite _ _ _
  | ret => exact Wiring.traced_extend _ _
  | call =>
    dsimp only
    unfold callWiring
    cases frame.role n with
    | resolved callee effect => exact effect.traced_wiring _ _
    | _ => exact Wiring.traced_result _ _ _
  | branch => exact Wiring.traced_idle
  | nop => exact Wiring.traced_idle

/-- A label in a slot was there from the start, or one of the nodes is a definition of the slot. -/
theorem definedBy_or_carries_of_carries_along {ids : List String} {s : State}
    (h : (frame.along s ids).Carries x i) : s.Carries x i ∨
      ∃ id n, frame.function.node? id = some n ∧
        (frame.along s ids).DefinedBy x (frame.function.key id) := by
  induction ids using List.reverseRecOn generalizing i with
  | nil => exact Or.inl h
  | append_singleton ids id ih =>
    rw [along_concat] at h ⊢
    unfold pass at h ⊢
    cases hn : frame.function.node? id with
    | none =>
      rw [hn] at h
      exact ih h
    | some n =>
      rw [hn] at h
      have hdescribes := frame.describes_transfer id n
      have htraced := frame.traced_wiring n
      have hdefined : ∀ hwrites : (frame.wiring n).writes x ∨
          ∃ y, (frame.wiring n).wakes y x ∧ ∃ i, (frame.along s ids).Carries y i,
          ∃ other m, frame.function.node? other = some m ∧
            (frame.transfer id n (frame.along s ids)).DefinedBy x (frame.function.key other) :=
        fun hwrites => ⟨id, n, hn, (hdescribes.definedBy_iff _ x _).2 (Or.inr ⟨rfl, hwrites⟩)⟩
      rcases (hdescribes.carries_iff _ x i).1 h with hmakes | ⟨y, hmoves, hc⟩
      · exact Or.inr (hdefined (Or.inl (htraced.made x i hmakes)))
      · rcases htraced.moved y x hmoves with ⟨rfl, hkeeps⟩ | hwrites | hwakes
        · refine (ih hc).imp_right ?_
          rintro ⟨other, m, hm, hd⟩
          exact ⟨other, m, hm, (hdescribes.definedBy_iff _ y _).2 (Or.inl ⟨hkeeps, hd⟩)⟩
        · exact Or.inr (hdefined (Or.inl hwrites))
        · exact Or.inr (hdefined (Or.inr ⟨y, hwakes, i, hc⟩))

/-- **A label at the end was given to the slot, or a node has defined the slot.** -/
theorem definedBy_or_given_of_carries_exit (h : frame.analyze visits inputs = .ok a)
    (hi : a.exit.Carries x i) : (frame.function.IsInput frame.globals x ∧ (inputs.getD x ∅).has i = true) ∨
      ∃ id n, frame.function.node? id = some n ∧ a.exit.DefinedBy x (frame.function.key id) := by
  obtain ⟨p, hp, rfl⟩ := analyze_eq_ok h
  have hinv := invariant_of_visits hp.1
  obtain ⟨ids, id, hpath, hleaves, hc⟩ := (hinv.carries_exitState_iff hp.2 x i).1 hi
  rcases definedBy_or_carries_of_carries_along hc with hentry | ⟨other, m, hm, hd⟩
  · exact Or.inl (carries_entryState_iff.1 hentry)
  · exact Or.inr ⟨other, m, hm,
      (hinv.definedBy_exitState_iff hp.2 x _).2 ⟨ids, id, hpath, hleaves, hd⟩⟩

end Frame

end TaintFlow
