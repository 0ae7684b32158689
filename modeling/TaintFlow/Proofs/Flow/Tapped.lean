import TaintFlow.Proofs.Concrete.Passing
import TaintFlow.Proofs.Flow.Spread
import TaintFlow.Proofs.Summary.Rounds
import TaintFlow.Rules.Decode

/-!
# One source more

A source rule is added for an api that had no rule.  The calls of the api were let pass as unknown code, and
now they make a label of their own instead, and what they were given is lost.  So nothing is lost where they
were given nothing or where their result is not kept (`Program.TapsFreely`).  All other calls keep their
role, and do with labels what they did, if the effects of the functions that they call spread further
(`Program.Tidy.spreads`).
-/

namespace TaintFlow

/-! ### Rules -/

namespace Registry

variable {r r' : Registry} {api : String}

structure LetsPass (r : Registry) (api : String) : Prop where
  source : r.sources.get? (.text api) = none
  sanitizer : r.sanitizers.get? (.text api) = none

def withSource (r : Registry) (api : String) (rule : SourceRule) : Registry :=
  { r with sources := r.sources.set (.text api) rule }

/-- A source rule for an api that is no sanitizer takes nothing away. -/
theorem exists_withSource_of_registerSource (h : r.LetsPass api) {origin : Document}
    {context : Option Document} (hr : r.registerSource (.text api) origin context = .ok r') :
    ∃ rule, r' = r.withSource api rule := by
  obtain ⟨origin, -, hr⟩ := Result.exists_of_bind_eq_ok hr
  obtain ⟨context, -, hr⟩ := Result.exists_of_bind_eq_ok hr
  obtain ⟨key, hkey, hr⟩ := Result.exists_of_bind_eq_ok hr
  cases hkey
  cases hr
  refine ⟨⟨origin, context⟩, ?_⟩
  have hsanitizer : r.sanitizers.get? (.text api) = none := h.sanitizer
  unfold addSource resolveConflicts
  split
  · next hrules =>
    cases hsanitizer.symm.trans hrules
  · rfl

/-- Other calls have the source rule that they had, and calls of the api had none. -/
theorem source?_withSource (h : r.LetsPass api) (rule : SourceRule) (d : Document) :
    (r.withSource api rule).source? d = r.source? d ∨
      d = .text api ∧ r.source? d = none ∧ (r.withSource api rule).source? d = some rule := by
  unfold source? lookup withSource
  by_cases htruthy : d.isTruthy = true
  · rw [if_pos htruthy, if_pos htruthy]
    by_cases hkey : d.key? = some (.text api)
    · refine Or.inr ⟨Document.eq_text_of_key? hkey, ?_, ?_⟩
      · rw [hkey]
        exact h.source
      · rw [hkey]
        exact OrderedMap.get?_set_self _ _ _
    · refine Or.inl ?_
      cases hd : d.key? with
      | none => rfl
      | some key => exact OrderedMap.get?_set_ne _ _ fun he => hkey (he ▸ hd)
  · rw [if_neg htruthy, if_neg htruthy]
    exact Or.inl rfl

theorem isSanitizer_of_letsPass (h : r.LetsPass api) : r.isSanitizer (.text api) = false := by
  have hnone : (Document.text api).key?.bind r.sanitizers.get? = none := h.sanitizer
  unfold isSanitizer sanitizersOf lookup
  rw [hnone, ite_self]
  rfl

end Registry

/-! ### Outputs and their slots -/

/-- What a summary of the function may list as an output. -/
inductive Function.IsOutput (g : Function) (globals : Names) : Atom → Prop
  | result : g.IsOutput globals (.text returnSlot)
  | param {index : Nat} {p : Param} (h : g.params[index]? = some p) (hout : p.out = true) :
      g.IsOutput globals (.text (paramMarker index))
  | global {name : String} (h : name ∈ globals) : g.IsOutput globals (.text (globalMarker name))

namespace Node

variable {n : Node} {input : String} {y : Slot}

@[simp] theorem inputSlot?_globalMarker (n : Node) (name : String) :
    n.inputSlot? (globalMarker name) = some (.text name) := by
  unfold inputSlot?
  rw [globalOfMarker?_globalMarker]

/-- What is passed, apart from globals, is passed for a parameter or for the receiver. -/
theorem mem_passed_of_inputSlot? (hglobal : globalOfMarker? input = none)
    (h : n.inputSlot? input = some y) :
    (∃ index, input = paramMarker index ∧ n.argSlots[index]? = some (some y)) ∨
      input = receiverMarker := by
  unfold inputSlot? at h
  rw [hglobal] at h
  obtain ⟨front, back, hparts, -⟩ := List.lookup_eq_some_iff.1 (Option.join_eq_some_iff.1 h)
  have hmem : (input, some y) ∈ ((List.range n.argSlots.length).map paramMarker).zip n.argSlots ++
      [(receiverMarker, n.passedReceiver?)] := by
    rw [hparts]
    exact List.mem_append_right _ List.mem_cons_self
  rcases List.mem_append.1 hmem with hmem | hmem
  · rw [List.zip_map_left] at hmem
    obtain ⟨⟨index, slot⟩, hslot, he⟩ := List.mem_map.1 hmem
    cases he
    exact Or.inl ⟨index, rfl, mem_zip_range_iff.1 hslot⟩
  · exact Or.inr (Prod.mk.inj (List.mem_singleton.1 hmem)).1

theorem inputSlot?_returnSlot (n : Node) : n.inputSlot? returnSlot = none := by
  cases h : n.inputSlot? returnSlot with
  | none => rfl
  | some y =>
    rcases mem_passed_of_inputSlot? (by decide) h with ⟨index, he, -⟩ | he
    · exact absurd he (returnSlot_ne_paramMarker index)
    · exact absurd he (by decide)

theorem getElem?_of_inputSlot?_paramMarker {index : Nat}
    (h : n.inputSlot? (paramMarker index) = some y) : n.argSlots[index]? = some (some y) := by
  rcases mem_passed_of_inputSlot? (globalOfMarker?_paramMarker index) h with ⟨other, he, hslot⟩ | he
  · rw [paramMarker_injective he]
    exact hslot
  · exact absurd he.symm (receiverMarker_ne_paramMarker index)

end Node

namespace Effect

variable {n : Node} {x : Slot}

theorem getElem?_of_lands_paramMarker {index : Nat} (h : Lands n (.text (paramMarker index)) x) :
    n.argSlots[index]? = some (some x) := by
  rcases h with ⟨he, -⟩ | hslot
  · exact absurd (Atom.text.inj he).symm (returnSlot_ne_paramMarker index)
  · unfold outputSlot? at hslot
    simp only [paramOfMarker?_paramMarker, List.getD_eq_getElem?_getD] at hslot
    cases hget : n.argSlots[index]? with
    | none =>
      rw [hget] at hslot
      cases hslot
    | some slot =>
      rw [hget, Option.getD_some] at hslot
      rw [hslot]

theorem eq_of_lands_globalMarker {name : String} (h : Lands n (.text (globalMarker name)) x) :
    x = .text name := by
  rcases h with ⟨he, -⟩ | hslot
  · exact absurd (Atom.text.inj he).symm (returnSlot_ne_globalMarker name)
  · unfold outputSlot? outputIndex at hslot
    simp only [paramOfMarker?_globalMarker, after?_param_globalMarker, globalOfMarker?_globalMarker]
      at hslot
    exact (Option.some.inj hslot).symm

end Effect

/-! ### Programs -/

def Node.CallsInto (n : Node) (known : Names) (callee : String) : Prop :=
  n.callee = .text callee ∧ callee ∈ known ∧ n.dynamic = false

namespace Program

/-- What a program keeps apart. -/
structure Tidy (p : Program) : Prop where
  keyed : p.WellKeyed
  /-- No id stands both for a function that could be read and for one that could not. -/
  read : ∀ id f, p.functions.get? id = some f → p.malformed.get? id = none
  /-- No parameter or receiver is named like a global. -/
  visible : ∀ id f, p.functions.get? id = some f → ∀ name ∈ p.globals, ¬ f.IsPassed (.text name)
  /-- No node has the key of a global. -/
  apart : ∀ id f, p.functions.get? id = some f → ∀ node n, f.node? node = some n → ∀ name ∈ p.globals,
    f.key node ≠ globalKey name
  /-- The result of a call that is followed is kept neither in an argument that the called function
  writes to nor in a global. -/
  results : ∀ id f, p.functions.get? id = some f → ∀ node n, f.node? node = some n → n.kind = .call →
    ∀ callee, n.CallsInto p.functionIds callee → ∀ target, n.targetSlot? = some target →
      (∀ g, p.functions.get? callee = some g → ∀ (index : Nat) (param : Param),
        g.params[index]? = some param → param.out = true → n.argSlots[index]? ≠ some (some target)) ∧
      ∀ name ∈ p.globals, target ≠ .text name

/-- No call of the api is followed, and each one is given nothing or its result is not kept. -/
def TapsFreely (p : Program) (api : String) : Prop :=
  ∀ id f, p.functions.get? id = some f → ∀ node n, f.node? node = some n → n.kind = .call →
    n.api = .text api → (∀ callee, ¬ n.CallsInto p.functionIds callee) ∧
      (n.targetSlot? = none ∨ n.passedSlots = [])

def Fits (p : Program) (callee : String) (e : Effect) : Prop :=
  ∀ t ∈ e.transfers, ∃ g, p.functions.get? callee = some g ∧ g.IsOutput p.globals t.output

/-- Whoever calls the function does with labels all that it did when the second effect takes the place of
the first one. -/
structure SpreadsAt (p : Program) (callee : String) (e e' : Effect) : Prop where
  unknown : e.unknown = e'.unknown
  spreads : e.unknown = false → e.Spreads e'
  fits : e.unknown = false → p.Fits callee e

variable {p : Program} {id callee node api : String} {f : Function} {n : Node} {e : Effect}
  {r : Registry} {effects effects' : String → Option Effect}

theorem fits_pending (p : Program) (callee : String) : p.Fits callee .pending :=
  fun t ht => absurd ht (OrderedSet.not_mem_empty t)

theorem Fits.keepsOwn (h : p.Fits callee e) (hp : p.Tidy) (hf : p.functions.get? id = some f)
    (hn : f.node? node = some n) (hkind : n.kind = .call) (hcalls : n.CallsInto p.functionIds callee) :
    e.KeepsOwn n := by
  intro t ht hown input hinput y x hy hlands
  obtain ⟨g, hg, houtput⟩ := h t ht
  have hresults := fun target => hp.results id f hf node n hn hkind callee hcalls target
  rw [hinput] at hown
  rw [← hown] at houtput hlands
  generalize ha : Atom.text input = output at houtput
  cases houtput with
  | result =>
    cases ha
    rw [Node.inputSlot?_returnSlot] at hy
    cases hy
  | @param index param hparam hout =>
    cases ha
    have hslot := Node.getElem?_of_inputSlot?_paramMarker hy
    have hslot' := Effect.getElem?_of_lands_paramMarker hlands
    refine ⟨Option.some.inj (Option.some.inj (hslot.symm.trans hslot')), fun htarget => ?_⟩
    exact (hresults x htarget).1 g hg index param hparam hout hslot'
  | @global name hname =>
    cases ha
    rw [Node.inputSlot?_globalMarker] at hy
    obtain rfl := Effect.eq_of_lands_globalMarker hlands
    exact ⟨(Option.some.inj hy).symm, fun htarget => (hresults _ htarget).2 name hname rfl⟩

theorem callsInto_of_calleeOf {frame : Frame} (h : frame.calleeOf n = some callee) :
    n.CallsInto frame.known callee := by
  unfold Frame.calleeOf at h
  split at h
  · next name hname =>
    split at h
    · next hknown =>
      cases h
      exact ⟨hname, hknown.2, hknown.1⟩
    · cases h
  · cases h

/-- **With a source more the calls of a function do with labels all that they did**, if the functions that
it calls do. -/
theorem Tidy.spreads (hp : p.Tidy) (hpass : r.LetsPass api) (htaps : p.TapsFreely api)
    (rule : SourceRule) (hf : p.functions.get? id = some f)
    (heffects : ∀ callee, f.Calls p.functionIds callee →
      p.SpreadsAt callee ((effects callee).getD .pending) ((effects' callee).getD .pending)) :
    (⟨f, r, effects, p.globals, p.functionIds⟩ : Frame).Spreads (r.withSource api rule) effects' := by
  refine ⟨fun _ => rfl, fun node n hn hkind => ?_⟩
  set frame : Frame := ⟨f, r, effects, p.globals, p.functionIds⟩ with hframe
  have hcallee : (frame.under (r.withSource api rule) effects').calleeOf n = frame.calleeOf n := rfl
  have hsanitizer : (frame.under (r.withSource api rule) effects').rules.isSanitizer n.api =
    r.isSanitizer n.api := rfl
  rcases Registry.source?_withSource hpass rule n.api with hsource | ⟨hapi, hnone, hsome⟩
  · have hsource : (frame.under (r.withSource api rule) effects').rules.source? n.api =
      frame.rules.source? n.api := hsource
    unfold Frame.role
    rw [hcallee, hsanitizer, hsource]
    cases frame.rules.source? n.api with
    | some found => exact .source found
    | none =>
      dsimp only
      by_cases hsan : r.isSanitizer n.api = true
      · rw [if_pos hsan, if_pos hsan]
        exact .sanitizer
      · rw [if_neg hsan, if_neg hsan]
        cases hc : frame.calleeOf n with
        | none => exact .unresolved
        | some callee =>
          have hinto : n.CallsInto p.functionIds callee := callsInto_of_calleeOf hc
          have hat := heffects callee ⟨node, n, hn, hkind, hinto.1, hinto.2.1, hinto.2.2⟩
          have hcallees : ((frame.under (r.withSource api rule) effects').effects callee).getD .pending =
            (effects' callee).getD .pending := rfl
          dsimp only
          rw [hcallees, ← hat.unknown]
          by_cases hunknown : ((effects callee).getD .pending).unknown = true
          · rw [if_pos hunknown, if_pos hunknown]
            exact .degraded
          · rw [if_neg hunknown, if_neg hunknown]
            rw [Bool.not_eq_true] at hunknown
            exact .resolved callee (hat.spreads hunknown)
              ((hat.fits hunknown).keepsOwn hp hf hn hkind hinto)
  · obtain ⟨hfollowed, hidle⟩ := htaps id f hf node n hn hkind hapi
    have hunresolved : frame.role n = .unresolved := by
      have hnone : frame.rules.source? n.api = none := hnone
      have hsan : frame.rules.isSanitizer n.api = false := hapi ▸ Registry.isSanitizer_of_letsPass hpass
      have hcallee : frame.calleeOf n = none := by
        cases hc : frame.calleeOf n with
        | none => rfl
        | some callee => exact absurd (callsInto_of_calleeOf hc) (hfollowed callee)
      unfold Frame.role
      simp [hnone, hsan, hcallee]
    have htapped : (frame.under (r.withSource api rule) effects').role n = .source rule := by
      have hsome : (frame.under (r.withSource api rule) effects').rules.source? n.api = some rule := hsome
      unfold Frame.role
      rw [hsome]
    rw [hunresolved, htapped]
    exact .tapped rule hidle

end Program

end TaintFlow
