import TaintFlow.Proofs.Flow.Forwarding
import TaintFlow.Proofs.Summary.Exact
import TaintFlow.Proofs.Summary.Reuse

/-!
# Summaries of functions that hand on their parameters

What the summary of a function says of its result is what stands in the slot of the result at the end: the
markers of inputs (`Frame.has_flow_return_iff`) and what is made.  If the function forwards to another one,
that is what the call delivers, and the call delivers what the summary of the other function says of its
result, with the own marker of each parameter (`Frame.has_return_iff_of_forwards`).  The inputs of the
other function that are globals bring nothing, since the function that forwards does not mention them and
so is not given them.

Resolved from nothing, a function that forwards to one with a known summary gets a known summary, made
from that one (`Resolver.exists_summary_of_forwards`): its analysis ends, because it takes two visits, and
when it is a member of a recursive component, so is the other one.
-/

namespace TaintFlow

namespace Frame

/-! ### What a summary says of the result -/

section Result

variable {frame : Frame} {visits : Amount} {a : Analysis}

/-- Every flow of a summary is the marker of an input that stands in the slot of an output at the end. -/
theorem carries_of_has_flow
    (h : frame.analyze visits (frame.function.symbolicInputs frame.globals) = .ok a)
    (hmarkers : ∀ i, frame.CalleesMake i → i.symbols = ∅) {input output : Atom}
    (hflow : (Summary.ofAnalysis frame.function a).Has (.flow input output)) :
    ∃ m, ∃ o ∈ Summary.outputs frame.function a, input = .text m ∧ output = .text o.marker ∧
      a.exit.Carries (.text o.slot) (markerIdentity m) ∧
      ∃ y, frame.function.Marks frame.globals m y := by
  obtain ⟨t, ht, rfl, rfl⟩ := hflow
  obtain ⟨o, ho, l, hl, m, hm, -, rfl⟩ := Summary.mem_transfers_iff.1 ht
  have hidentity := (identity_of_symbol h hmarkers hl hm).1
  have hcarries : a.exit.Carries (.text o.slot) l.identity := TaintSet.has_iff.2 ⟨l, hl, rfl⟩
  obtain ⟨y, -, hmarks⟩ := (exists_symbol_iff h hmarkers _ m).1 ⟨_, hcarries, hm⟩
  exact ⟨m, o, ho, rfl, rfl, hidentity ▸ hcarries, y, hmarks⟩

theorem mem_outputs_return (f : Function) (a : Analysis) :
    ⟨returnSlot, returnSlot, none⟩ ∈ Summary.outputs f a := by
  simp [Summary.outputs]

/-- The flows into the result are the markers that stand in the slot of the result at the end. -/
theorem has_flow_return_iff
    (h : frame.analyze visits (frame.function.symbolicInputs frame.globals) = .ok a)
    (hmarkers : ∀ i, frame.CalleesMake i → i.symbols = ∅) {m : String} :
    (Summary.ofAnalysis frame.function a).Has (.flow (.text m) (.text returnSlot)) ↔
      a.exit.Carries (.text returnSlot) (markerIdentity m) := by
  have hreturn := mem_outputs_return frame.function a
  constructor
  · intro hflow
    obtain ⟨m', o, ho, hm, he, hcarries, -⟩ := carries_of_has_flow h hmarkers hflow
    obtain rfl := Atom.text.inj hm
    obtain rfl := Summary.output_eq_of_marker hreturn ho (Atom.text.inj he)
    exact hcarries
  · intro hcarries
    obtain ⟨l, hl, he⟩ := TaintSet.has_iff.1 hcarries
    have hm : m ∈ l.symbols := by
      have hsymbols : l.symbols = .singleton m := congrArg Identity.symbols he
      rw [hsymbols]
      exact OrderedSet.mem_singleton.2 rfl
    obtain ⟨y, hinput⟩ := (identity_of_symbol h hmarkers hl hm).2
    exact ⟨_, Summary.mem_transfers_iff.2
      ⟨_, hreturn, l, hl, m, hm, Or.inl hinput.ne_returnSlot, rfl⟩, rfl, rfl⟩

/-- What the slot of an output holds, the summary says of the result if it is the slot of the result. -/
theorem has_return_of_slot
    (h : frame.analyze visits (frame.function.symbolicInputs frame.globals) = .ok a)
    (hmarkers : ∀ i, frame.CalleesMake i → i.symbols = ∅) {o : Summary.Output}
    (ho : o ∈ Summary.outputs frame.function a) (hslot : o.slot = returnSlot) :
    (∀ input, (Summary.ofAnalysis frame.function a).Has (.flow input (.text o.marker)) →
      (Summary.ofAnalysis frame.function a).Has (.flow input (.text returnSlot))) ∧
    ∀ i, (Summary.ofAnalysis frame.function a).Has (.made o.marker i) →
      (Summary.ofAnalysis frame.function a).Has (.made returnSlot i) := by
  refine ⟨fun input hflow => ?_, fun i hmade => ?_⟩
  · obtain ⟨m, o', ho', rfl, he, hcarries, -⟩ := carries_of_has_flow h hmarkers hflow
    obtain rfl := Summary.output_eq_of_marker ho ho' (Atom.text.inj he)
    rw [hslot] at hcarries
    exact (has_flow_return_iff h hmarkers).2 hcarries
  · refine (Summary.has_generated_iff (mem_outputs_return frame.function a) i).2 ?_
    have hconcrete := (Summary.has_generated_iff ho i).1 hmade
    rw [hslot] at hconcrete
    exact hconcrete

end Result

/-! ### The result of a function that forwards to another one -/

section Caller

variable {frame below : Frame} {kept : String} {visits visits' : Amount} {a b : Analysis} {m : String}
  {x : Slot} {i : Identity}

/-- In a function that forwards to another one only parameters are marked. -/
theorem marks_iff_of_forwards {w g : Function} {rules : Registry} {globals : Names}
    (h : w.Forwards g rules globals kept) (hnodup : g.paramNames.Nodup) :
    w.Marks globals m x ↔
      ∃ index p, g.params[index]? = some p ∧ m = paramMarker index ∧ x = .text p.name := by
  have hnames : w.paramNames = g.paramNames := congrArg (List.map Param.name) h.params
  have hparam : ∀ {index : Nat} {p : Param}, g.params[index]? = some p →
      w.Marks globals (paramMarker index) (.text p.name) := fun hp =>
    Function.marks_param h.receiver (hnames ▸ hnodup) (h.params ▸ hp)
  constructor
  · intro hmarks
    cases hmarks.input with
    | @param index p hp => exact ⟨index, p, h.params ▸ hp, rfl, rfl⟩
    | receiver hr =>
      rw [h.receiver] at hr
      cases hr
    | @global name hname =>
      -- a global that is mentioned is a parameter, and has the marker of that
      have hmem : name ∈ g.paramNames := by
        by_contra hnot
        exact h.not_isInput_global hnot ⟨_, .global hname⟩
      obtain ⟨p, hp, rfl⟩ := List.mem_map.1 hmem
      obtain ⟨index, hp⟩ := List.mem_iff_getElem?.1 hp
      exact ⟨index, p, hp, hmarks.marker_eq (hparam hp), rfl⟩
  · rintro ⟨index, p, hp, rfl, rfl⟩
    exact hparam hp

theorem carries_entryState_of_forwards
    (h : frame.function.Forwards below.function frame.rules frame.globals kept)
    (hnodup : below.function.paramNames.Nodup) :
    (frame.entryState (frame.function.symbolicInputs frame.globals)).Carries x i ↔
      ∃ index p, below.function.params[index]? = some p ∧ x = .text p.name ∧
        i = markerIdentity (paramMarker index) := by
  rw [carries_entryState_iff, Function.has_symbolicInputs_iff]
  simp only [marks_iff_of_forwards h hnodup]
  constructor
  · rintro ⟨-, m, rfl, index, p, hp, rfl, rfl⟩
    exact ⟨index, p, hp, rfl, rfl⟩
  · rintro ⟨index, p, hp, rfl, rfl⟩
    have hmarks := (marks_iff_of_forwards h hnodup).2 ⟨index, p, hp, rfl, rfl⟩
    exact ⟨⟨_, hmarks.input⟩, _, rfl, index, p, hp, rfl, rfl⟩

/-- What the call delivers as the result: what the called function makes, and the markers of parameters
that it returns. -/
theorem delivers_return_iff_of_forwards
    (h : frame.function.Forwards below.function frame.rules frame.globals kept)
    (hnodup : below.function.paramNames.Nodup) (hreceiver : below.function.receiverSlot? = none)
    {call : Node} {next : String} (hpasses : call.PassesOn below.function frame.rules kept next)
    (hbelow : below.analyze visits' (below.function.symbolicInputs below.globals) = .ok b)
    (hmarkers : ∀ i, below.CalleesMake i → i.symbols = ∅) :
    (Summary.ofAnalysis below.function b).Delivers call
        (frame.entryState (frame.function.symbolicInputs frame.globals)) (.text returnSlot) i ↔
      (Summary.ofAnalysis below.function b).Has (.made returnSlot i) ∨
        ∃ index p, below.function.params[index]? = some p ∧
          (Summary.ofAnalysis below.function b).Has
            (.flow (.text (paramMarker index)) (.text returnSlot)) ∧
          i = markerIdentity (paramMarker index) := by
  have hslot : ∀ {index : Nat} {p : Param}, below.function.params[index]? = some p →
      call.inputSlot? (paramMarker index) = some (.text p.name) := by
    intro index p hp
    have hinput : below.function.Input below.globals (paramMarker index) (.text p.name) := .param hp
    exact hpasses.inputSlot?_of_input hreceiver hinput
  constructor
  · rintro (⟨name, he, hi⟩ | ⟨y, ⟨t, ht, hout, input, hinput, hy⟩, hc⟩)
    · obtain rfl := Atom.text.inj he
      exact Or.inl hi
    · obtain ⟨index, p, hp, rfl, rfl⟩ := (carries_entryState_of_forwards h hnodup).1 hc
      have hflow : (Summary.ofAnalysis below.function b).Has (.flow (.text input) (.text returnSlot)) :=
        ⟨t, ht, hinput, hout⟩
      obtain ⟨m, -, -, hm, -, -, z, hmarks⟩ := carries_of_has_flow hbelow hmarkers hflow
      obtain rfl := Atom.text.inj hm
      -- the slot that is passed is the slot of the input in the called function
      have hz := hpasses.inputSlot?_of_input hreceiver hmarks.input
      obtain rfl : z = .text p.name := Option.some.inj (hz.symm.trans hy)
      obtain rfl := hmarks.marker_eq (Function.marks_param hreceiver hnodup hp)
      exact Or.inr ⟨index, p, hp, hflow, rfl⟩
  · rintro (hi | ⟨index, p, hp, ⟨t, ht, hinput, hout⟩, rfl⟩)
    · exact Or.inl ⟨returnSlot, rfl, hi⟩
    · exact Or.inr ⟨.text p.name, ⟨t, ht, hout, _, hinput, hslot hp⟩,
        (carries_entryState_of_forwards h hnodup).2 ⟨index, p, hp, rfl, rfl⟩⟩

/-- At the end stands what the call delivers as the result, and the marker of a parameter that has the
name of the result. -/
theorem carries_return_iff_of_forwards
    (h : frame.function.Forwards below.function frame.rules frame.globals kept)
    (hglobals : below.globals = frame.globals)
    (hnodup : below.function.paramNames.Nodup) (hreceiver : below.function.receiverSlot? = none)
    (hknown : below.function.id ∈ frame.known)
    (he : frame.effects below.function.id = some (Summary.ofAnalysis below.function b).toEffect)
    (hbelow : below.analyze visits' (below.function.symbolicInputs below.globals) = .ok b)
    (hmarkers : ∀ i, below.CalleesMake i → i.symbols = ∅)
    (ha : frame.analyze visits (frame.function.symbolicInputs frame.globals) = .ok a) :
    a.exit.Carries (.text returnSlot) i ↔
      (∃ index p, below.function.params[index]? = some p ∧ p.name = returnSlot ∧
        i = markerIdentity (paramMarker index)) ∨
      (Summary.ofAnalysis below.function b).Has (.made returnSlot i) ∨
        ∃ index p, below.function.params[index]? = some p ∧
          (Summary.ofAnalysis below.function b).Has
            (.flow (.text (paramMarker index)) (.text returnSlot)) ∧
          i = markerIdentity (paramMarker index) := by
  obtain ⟨call, next, -, hpasses, hexit⟩ := carries_return_of_forwards h hknown he rfl ha
  have hdelivers := delivers_return_iff_of_forwards (i := i) h hnodup hreceiver hpasses hbelow hmarkers
  have hanalysis : b.globals = below.function.globalsIn frame.globals :=
    hglobals ▸ globals_of_analyze hbelow
  -- an output that lands in one of the two slots is written to the slot of the result
  have hlands : ∀ {output : Atom} {y : Slot}, Effect.Lands call output y →
      (y = .text returnSlot ∨ y = .text kept) →
      (Summary.ofAnalysis below.function b).Delivers call
        (frame.entryState (frame.function.symbolicInputs frame.globals)) output i →
      (Summary.ofAnalysis below.function b).Delivers call
        (frame.entryState (frame.function.symbolicInputs frame.globals)) (.text returnSlot) i := by
    intro output y hy hcase hd
    obtain ⟨o, ho, rfl⟩ : ∃ o ∈ Summary.outputs below.function b, output = .text o.marker := by
      rcases hd with ⟨name, rfl, hi⟩ | ⟨z, ⟨t, ht, rfl, input, hinput, -⟩, -⟩
      · obtain ⟨o, ho, rfl, -⟩ := Summary.has_getD_generated_iff.1 hi
        exact ⟨o, ho, rfl⟩
      · obtain ⟨m, o, ho, -, hout, -⟩ := carries_of_has_flow hbelow hmarkers ⟨t, ht, hinput, rfl⟩
        exact ⟨o, ho, hout⟩
    have hslot : o.slot = returnSlot := by
      rcases hpasses.lands_output h.own h.hidden hanalysis ho hy with ⟨hslot, -⟩ | ⟨rfl, hne⟩
      · exact hslot
      · rcases hcase with he | he
        · exact Key.text.inj he
        · exact absurd (Key.text.inj he) hne
    obtain ⟨hflows, hmade⟩ := has_return_of_slot hbelow hmarkers ho hslot
    rcases hd with ⟨name, hname, hi⟩ | ⟨z, ⟨t, ht, hout, input, hinput, hz⟩, hc⟩
    · obtain rfl := Atom.text.inj hname
      exact Or.inl ⟨returnSlot, rfl, hmade i hi⟩
    · obtain ⟨t', ht', hinput', hout'⟩ := hflows _ ⟨t, ht, hinput, hout⟩
      exact Or.inr ⟨z, ⟨t', ht', hout', input, hinput', hz⟩, hc⟩
  rw [hexit, ← hdelivers, Effect.carries_apply_iff, Effect.carries_apply_iff,
    carries_entryState_of_forwards h hnodup, carries_entryState_of_forwards h hnodup]
  constructor
  · rintro ((⟨-, index, p, hp, hx, rfl⟩ | ⟨output, hy, hd⟩) | (⟨htarget, -⟩ | ⟨output, hy, hd⟩))
    · exact Or.inl ⟨index, p, hp, (Key.text.inj hx).symm, rfl⟩
    · exact Or.inr (hlands hy (Or.inl rfl) hd)
    · exact absurd hpasses.target htarget
    · exact Or.inr (hlands hy (Or.inr rfl) hd)
  · rintro (⟨index, p, hp, hname, rfl⟩ | hd)
    · refine Or.inl (Or.inl ⟨fun htarget => h.own ?_, index, p, hp, hname ▸ rfl, rfl⟩)
      rw [hpasses.target, Option.some.injEq] at htarget
      obtain rfl := Key.text.inj htarget
      exact List.mem_map.2 ⟨p, List.mem_of_getElem? hp, hname⟩
    · exact Or.inr (Or.inr ⟨_, Or.inl ⟨rfl, hpasses.target⟩, hd⟩)

/-- **The result of a function that forwards to another one** is the result of that one as far as its
inputs are parameters, together with a parameter that has the name of the result. -/
theorem has_return_iff_of_forwards
    (h : frame.function.Forwards below.function frame.rules frame.globals kept)
    (hglobals : below.globals = frame.globals)
    (hnodup : below.function.paramNames.Nodup) (hreceiver : below.function.receiverSlot? = none)
    (hknown : below.function.id ∈ frame.known)
    (he : frame.effects below.function.id = some (Summary.ofAnalysis below.function b).toEffect)
    (hbelow : below.analyze visits' (below.function.symbolicInputs below.globals) = .ok b)
    (hmarkers : ∀ i, below.CalleesMake i → i.symbols = ∅)
    (ha : frame.analyze visits (frame.function.symbolicInputs frame.globals) = .ok a)
    (hmarkers' : ∀ i, frame.CalleesMake i → i.symbols = ∅) :
    (∀ m, (Summary.ofAnalysis frame.function a).Has (.flow (.text m) (.text returnSlot)) ↔
      ((Summary.ofAnalysis below.function b).Has (.flow (.text m) (.text returnSlot)) ∧
          globalOfMarker? m = none) ∨
        ∃ index p, below.function.params[index]? = some p ∧ p.name = returnSlot ∧
          m = paramMarker index) ∧
    ∀ i, (Summary.ofAnalysis frame.function a).Has (.made returnSlot i) ↔
      (Summary.ofAnalysis below.function b).Has (.made returnSlot i) := by
  have hcarries : ∀ i, a.exit.Carries (.text returnSlot) i ↔ _ := fun i =>
    carries_return_iff_of_forwards (i := i) h hglobals hnodup hreceiver hknown he hbelow hmarkers ha
  constructor
  · intro m
    rw [has_flow_return_iff ha hmarkers', hcarries]
    constructor
    · rintro (⟨index, p, hp, hname, hi⟩ | hmade | ⟨index, p, hp, hflow, hi⟩)
      · exact Or.inr ⟨index, p, hp, hname, markerIdentity_injective hi⟩
      · -- what is made has no marker
        have hnone : OrderedSet.singleton m = ∅ := Summary.symbols_of_made hmade
        exact absurd (OrderedSet.mem_singleton.2 rfl) (hnone ▸ OrderedSet.not_mem_empty m)
      · obtain rfl := markerIdentity_injective hi
        exact Or.inl ⟨hflow, globalOfMarker?_paramMarker index⟩
    · rintro (⟨hflow, hglobal⟩ | ⟨index, p, hp, hname, rfl⟩)
      · obtain ⟨m', -, -, hm, -, -, y, hmarks⟩ := carries_of_has_flow hbelow hmarkers hflow
        obtain rfl := Atom.text.inj hm
        cases hmarks.input with
        | @param index p hp => exact Or.inr (Or.inr ⟨index, p, hp, hflow, rfl⟩)
        | receiver hr =>
          rw [hreceiver] at hr
          cases hr
        | @global name =>
          rw [globalOfMarker?_globalMarker] at hglobal
          cases hglobal
      · exact Or.inl ⟨index, p, hp, hname, rfl⟩
  · intro i
    have hmadeFrame := Summary.has_generated_iff (mem_outputs_return frame.function a) i
    have hmadeBelow := Summary.has_generated_iff (mem_outputs_return below.function b) i
    refine hmadeFrame.trans ?_
    rw [TaintSet.has_concrete_iff]
    constructor
    · rintro ⟨j, hj, horigins, rfl⟩
      rcases (hcarries j).1 hj with ⟨index, p, -, -, rfl⟩ | hmade | ⟨index, p, -, -, rfl⟩
      · cases horigins
      · rw [← Summary.symbols_of_made hmade]
        exact hmade
      · cases horigins
    · intro hmade
      obtain ⟨j, -, horigins, he⟩ := TaintSet.has_concrete_iff.1 (hmadeBelow.1 hmade)
      refine ⟨i, (hcarries i).2 (Or.inr (Or.inl hmade)), he ▸ horigins, ?_⟩
      rw [← Summary.symbols_of_made hmade]

end Caller

end Frame

namespace Resolver

variable {r : Resolver} {p : Program} {rules : Registry} {limits : ResolveLimits}
  {allowance left : Allowance} {res : Resolution}

/-! ### What known summaries are made of -/

theorem symbols_of_calleesMake {view : String → Option Summary} {f : Function}
    (h : ∀ callee s, view callee = some s → s.Unmarked) {i : Identity}
    (hi : (r.frameOf view f).CalleesMake i) : i.symbols = ∅ := by
  obtain ⟨callee, e, output, he, hmade⟩ := hi
  obtain ⟨s, hs, rfl⟩ := Option.map_eq_some_iff.1 he
  exact h callee s hs output i hmade

open Classical in
/-- What a function does not call does not matter, so it may be left out of the view. -/
theorem exists_unmarked_view (view : String → Option Summary) {f : Function}
    (h : ∀ callee s, f.Calls r.program.functionIds callee → view callee = some s → s.Unmarked) :
    ∃ view' : String → Option Summary, (∀ callee s, view' callee = some s → s.Unmarked) ∧
      (∀ callee, f.Calls r.program.functionIds callee → view' callee = view callee) ∧
      r.summarize view' f = r.summarize view f := by
  let view' : String → Option Summary := fun callee =>
    if f.Calls r.program.functionIds callee then view callee else none
  have hview : ∀ callee, f.Calls r.program.functionIds callee → view' callee = view callee :=
    fun _ hcalls => if_pos hcalls
  refine ⟨view', fun callee s hs => ?_, hview, summarize_congr hview⟩
  by_cases hcalls : f.Calls r.program.functionIds callee
  · exact h callee s hcalls ((hview callee hcalls).symm.trans hs)
  · have hnone : view' callee = none := if_neg hcalls
    rw [hnone] at hs
    cases hs

/-- No published summary says that a label with a marker is made. -/
theorem unmarked_of_resolve (hkeyed : p.WellKeyed)
    (h : (ofProgram p rules limits ∅).resolve allowance = .ok (res, left)) {id : String} {s : Summary}
    (hs : res.summaries.get? id = some s) : s.Unmarked := by
  unfold resolve at h
  split at h
  · rcases adds_of_foldlM (r := ofProgram p rules limits ∅) hkeyed rfl h id with
      hsame | ⟨-, t, ht, hunmarked⟩
    · exact (failsOnly_initial _ id s (hsame ▸ hs)).1
    · exact Option.some.inj (hs.symm.trans ht) ▸ hunmarked
  · cases h

/-- **Where the summary of a valid function comes from** in a resolution from nothing: from a table that
agrees with what is published in the end, apart from its component. -/
theorem exists_summarisedFrom_of_resolve (hkeyed : p.WellKeyed)
    (h : (ofProgram p rules limits ∅).resolve allowance = .ok (res, left)) {id : String}
    (hid : id ∈ p.functionIds) : ∃ layer ∈ (CallGraph.ofProgram p).layers, ∃ c ∈ layer, id ∈ c ∧
      ∃ table results, (ofProgram p rules limits ∅).SummarisedFrom table res c results := by
  obtain ⟨layer, hlayer, c, hc, hidc⟩ := exists_component hid
  obtain ⟨-, hfrom⟩ := (settled_cases ((stage_of_resolve hkeyed h).settled layer hlayer c hc)).resolve_left
    fun hinherited => not_inherited rfl hinherited.1
  exact ⟨layer, hlayer, c, hc, hidc, hfrom⟩

/-- What the members of a component see has no markers. -/
theorem unmarked_of_view (hkeyed : p.WellKeyed)
    (h : (ofProgram p rules limits ∅).resolve allowance = .ok (res, left)) {c : Names}
    {table provisional : NameMap Summary} {results : List Summary}
    (hfrom : (ofProgram p rules limits ∅).SummarisedFrom table res c results)
    (hprovisional : ∀ id s, provisional.get? id = some s → s.Unmarked) {id : String} (hid : id ∈ c)
    {f : Function} (hf : p.functions.get? id = some f) {callee : String} {s : Summary}
    (hcalls : f.Calls p.functionIds callee) (hs : view table provisional callee = some s) :
    s.Unmarked := by
  rcases Option.or_eq_some_iff.1 hs with hs | ⟨-, hs⟩
  · exact hprovisional callee s hs
  · by_cases hin : callee ∈ c
    · rw [hfrom.own callee hin] at hs
      exact (failsOnly_initial _ callee s hs).1
    · rw [hfrom.below id hid callee (CallGraph.edge_of_calls hkeyed hf hcalls) hin] at hs
      exact unmarked_of_resolve hkeyed h hs

/-- **A known summary was made from summaries without markers.** -/
theorem exists_summarize_of_known (hkeyed : p.WellKeyed)
    (h : (ofProgram p rules limits ∅).resolve allowance = .ok (res, left)) {id : String} {s : Summary}
    (hs : res.summaries.get? id = some s) (hknown : s.unknown = false) : id ∈ validFunctions p ∧
      ∃ f view, p.functions.get? id = some f ∧ (∀ callee t, view callee = some t → t.Unmarked) ∧
        (ofProgram p rules limits ∅).summarize view f = .ok s := by
  let r := ofProgram p rules limits ∅
  obtain ⟨hv, f, hf, -⟩ := summaryOf_of_resolve hkeyed h hs hknown
  refine ⟨hv, ?_⟩
  obtain ⟨-, -, c, -, hid, table, results, hfrom⟩ :=
    exists_summarisedFrom_of_resolve hkeyed h (mem_functionIds_iff.2 (Or.inl ⟨f, hf⟩))
  have hmember : id ∈ r.membersOf c := mem_membersOf_iff.2 ⟨hid, hv⟩
  obtain ⟨t, ht, rfl⟩ := hfrom.spec.complete id hmember
  obtain rfl : t = s := Option.some.inj ((hfrom.published t ht).summary.symm.trans hs)
  obtain ⟨next, settled, hloop, ⟨-, rfl⟩ | ⟨-, -, rfl⟩⟩ := results_cases (hfrom.component _ hmember)
  · have hget := ((r.provides_empty _).rounds hkeyed hloop).mem_values_iff.1 ht
    let motive (provisional : NameMap Summary) : Prop :=
      (∀ id s, provisional.get? id = some s → s.Unmarked) ∧
        ∀ id s, provisional.get? id = some s → ∃ f view, p.functions.get? id = some f ∧
          (∀ callee t, view callee = some t → t.Unmarked) ∧ r.summarize view f = .ok s
    have hempty : motive ∅ := ⟨fun _ _ hs => (by cases hs), fun _ _ hs => (by cases hs)⟩
    refine (rounds_induction (motive := motive) hloop hempty ?_).2 _ t hget
    rintro provisional other g new hother ⟨hunmarked, hmade⟩ hg - hnew
    have hother : other ∈ c := (mem_membersOf_iff.1 hother).1
    obtain ⟨view', hview', -, hsame⟩ := exists_unmarked_view (r := r) (f := g)
      (view table provisional) fun callee s hcalls hs =>
        unmarked_of_view hkeyed h hfrom hunmarked hother hg hcalls hs
    constructor
    · intro id s hs
      rw [OrderedMap.get?_set] at hs
      split at hs
      · cases hs
        exact unmarked_of_summarize hnew
      · exact hunmarked id s hs
    · intro id s hs
      rw [OrderedMap.get?_set] at hs
      split at hs
      · next he =>
        cases hs
        exact ⟨g, view', he ▸ hg, hview', hsame.trans hnew⟩
      · exact hmade id s hs
  · obtain ⟨_, _, _, -, -, rfl⟩ := exists_of_mem_failedMembers ht
    cases hknown

end Resolver

/-! ### The summary of a function that forwards -/

namespace Function.Forwards

variable {w g : Function} {rules : Registry} {globals : Names} {kept : String}

theorem calls_iff (h : w.Forwards g rules globals kept) {known : Names} {callee : String} :
    w.Calls known callee ↔ callee = g.id ∧ g.id ∈ known := by
  obtain ⟨last, call, back, hcall, hpasses, hback, hhands, honly⟩ := h.body
  constructor
  · rintro ⟨id, n, hn, hkind, hcallee, hknown, -⟩
    rcases honly id n hn with rfl | rfl
    · obtain rfl : n = call := Option.some.inj (hn.symm.trans hcall)
      rw [hpasses.callee] at hcallee
      obtain rfl := Document.text.inj hcallee
      exact ⟨rfl, hknown⟩
    · obtain rfl : n = back := Option.some.inj (hn.symm.trans hback)
      rw [hhands.kind] at hkind
      cases hkind
  · rintro ⟨rfl, hknown⟩
    exact ⟨_, call, hcall, hpasses.kind, hpasses.callee, hknown, hpasses.resolved⟩

end Function.Forwards

namespace Resolver

variable {r : Resolver} {p : Program} {rules : Registry} {limits : ResolveLimits}
  {allowance left : Allowance} {res : Resolution} {w g : Function} {kept : String}

/-- With a visit for each node, a function that forwards has a known summary. -/
theorem summarize_of_forwards {globals : Names} (h : w.Forwards g rules globals kept)
    (hvisits : 0 < r.limits.maxVisits) {view : String → Option Summary} {s : Summary}
    (hs : r.summarize view w = .ok s) :
    ∃ a, (r.frameOf view w).analyze (.whole r.limits.maxVisits)
      (w.symbolicInputs r.program.globals) = .ok a ∧ s = .ofAnalysis w a := by
  have hframe : (r.frameOf view w).function.Forwards g rules globals kept := h
  rw [summarize_eq] at hs
  rcases hframe.analyze_cases hvisits (w.symbolicInputs r.program.globals) with
    ⟨a, ha⟩ | ⟨fault, hfault, hlocal⟩
  · rw [ha] at hs
    cases hs
    exact ⟨a, ha, rfl⟩
  · rw [hfault] at hs
    simp only [hlocal] at hs
    cases hs

/-- The function that is forwarded to belongs to the same recursive component. -/
theorem mem_of_forwards_of_recursive (hkeyed : p.WellKeyed) {globals : Names}
    (h : w.Forwards g rules globals kept) (hw : p.functions.get? w.id = some w) {layer : List Names}
    (hlayer : layer ∈ (CallGraph.ofProgram p).layers) {c : Names} (hc : c ∈ layer) (hid : w.id ∈ c)
    (hrecursive : (CallGraph.ofProgram p).isRecursive c = true) : g.id ∈ c := by
  have hedge : ∀ {v : String}, (CallGraph.ofProgram p).callees.Edge w.id v → v = g.id := by
    intro v hedge
    obtain ⟨id, f, hf, hfid, hcalls⟩ := CallGraph.edge_ofProgram_iff.1 hedge
    obtain rfl : id = w.id := (hkeyed id f hf).symm.trans hfid
    obtain rfl : f = w := Option.some.inj (hf.symm.trans hw)
    exact (h.calls_iff.1 hcalls).1
  have hmutual : ∀ {v : String}, v ∈ c ↔ (CallGraph.ofProgram p).callees.Mutual w.id v :=
    CallGraph.mem_iff_mutual_of_layer _ rfl hlayer hc hid
  unfold CallGraph.isRecursive at hrecursive
  split at hrecursive
  · next id hlist =>
    have hsingle : w.id ∈ [id] := hlist ▸ hid
    obtain rfl := List.mem_singleton.1 hsingle
    have hself : w.id ∈ (CallGraph.ofProgram p).callees.successors w.id := by simpa using hrecursive
    exact hedge hself ▸ hid
  · next hlist =>
    -- another member is reached by way of the only call
    obtain ⟨u, hu, hne⟩ : ∃ u ∈ c, u ≠ w.id := by
      by_contra hnone
      have hall : ∀ u ∈ c.toList, u = w.id := fun u hu => by_contra fun hne => hnone ⟨u, hu, hne⟩
      have hlength : c.toList.length ≤ 1 := by
        have hreplicate := List.eq_replicate_of_mem hall
        have hnodup := c.nodup_toList
        rw [hreplicate] at hnodup
        exact List.nodup_replicate.1 hnodup
      obtain ⟨v, hv⟩ := List.length_eq_one_iff.1
        (Nat.le_antisymm hlength (List.length_pos_of_mem hid))
      exact hlist v hv
    obtain ⟨hto, hback⟩ := hmutual.1 hu
    rcases Relation.ReflTransGen.cases_head hto with he | ⟨v, hv, hrest⟩
    · exact absurd he.symm hne
    · obtain rfl := hedge hv
      exact hmutual.2 ⟨.single hv, hrest.trans hback⟩

theorem mem_validFunctions_of_forwards (hforwards : w.Forwards g rules p.globals kept)
    (hw : p.functions.get? w.id = some w) (hg : p.functions.get? g.id = some g)
    (hvalid : g.id ∈ validFunctions p) : w.id ∈ validFunctions p := by
  obtain ⟨g', hg', hdefect⟩ := mem_validFunctions_iff.1 hvalid
  obtain rfl : g' = g := Option.some.inj (hg'.symm.trans hg)
  refine mem_validFunctions_iff.2 ⟨w, hw, Option.isNone_iff_eq_none.1 ?_⟩
  exact hforwards.isValid (Option.isNone_iff_eq_none.2 hdefect) (mem_functionIds_iff.2 (Or.inl ⟨_, hg⟩))

/-- **In its rounds a member that forwards is never unknown.** -/
theorem known_of_rounds_of_forwards {previous published next : NameMap Summary} {members : List String}
    {n : Nat} {settled : Bool} (hforwards : w.Forwards g rules p.globals kept)
    (hvisits : 0 < limits.maxVisits) (hw : p.functions.get? w.id = some w)
    (hrounds : (ofProgram p rules limits previous).rounds published members n ∅ = .ok (next, settled))
    {t : Summary} (ht : next.get? w.id = some t) : t.unknown = false := by
  -- by induction on what is provisional: each time the function is summarised, its summary is known
  have hmade : ∀ id u, next.get? id = some u → id = w.id → u.unknown = false := by
    refine rounds_induction (motive := fun provisional : NameMap Summary =>
      ∀ id u, provisional.get? id = some u → id = w.id → u.unknown = false) hrounds ?_ ?_
    · intro id u hu
      cases hu
    · intro provisional other f new _ hprovisional hf _ hnew id u hu he
      rw [OrderedMap.get?_set] at hu
      split at hu
      · next hid =>
        cases hu
        obtain rfl : f = w := Option.some.inj (hf.symm.trans ((hid ▸ he : other = w.id) ▸ hw))
        obtain ⟨a, -, rfl⟩ := summarize_of_forwards hforwards hvisits hnew
        rfl
      · exact hprovisional id u hu he
  exact hmade w.id t ht rfl

/-- **What a function that forwards gets published**: with a known summary of the function that it
forwards to, a known summary that is made from that one. -/
theorem exists_summary_of_forwards (hkeyed : p.WellKeyed)
    (h : (ofProgram p rules limits ∅).resolve allowance = .ok (res, left))
    (hforwards : w.Forwards g rules p.globals kept) (hw : p.functions.get? w.id = some w)
    (hg : p.functions.get? g.id = some g) {s : Summary} (hs : res.summaries.get? g.id = some s)
    (hknown : s.unknown = false) (hvisits : 0 < limits.maxVisits)
    (hrounds : limits.maxRounds ≠ 1 ∨ ¬ (CallGraph.ofProgram p).callees.Reaches g.id w.id) :
    ∃ t view new, res.summaries.get? w.id = some t ∧ t.unknown = false ∧
      (∀ callee t, view callee = some t → t.Unmarked) ∧ view g.id = some s ∧
      (ofProgram p rules limits ∅).summarize view w = .ok new ∧ new.toEffect.same t.toEffect = true := by
  let r := ofProgram p rules limits ∅
  obtain ⟨hgv, -⟩ := summaryOf_of_resolve hkeyed h hs hknown
  have hcalls : w.Calls p.functionIds g.id :=
    hforwards.calls_iff.2 ⟨rfl, mem_functionIds_iff.2 (Or.inl ⟨g, hg⟩)⟩
  have hedge : r.graph.callees.Edge w.id g.id := CallGraph.edge_of_calls hkeyed hw hcalls
  obtain ⟨layer, hlayer, c, hc, hid, table, results, hfrom⟩ :=
    exists_summarisedFrom_of_resolve hkeyed h (mem_functionIds_iff.2 (Or.inl ⟨w, hw⟩))
  have hwc : w.id ∈ r.membersOf c :=
    mem_membersOf_iff.2 ⟨hid, mem_validFunctions_of_forwards hforwards hw hg hgv⟩
  -- a recursive component has the function that is forwarded to as a member
  have hmember : r.graph.isRecursive c = true → g.id ∈ c :=
    mem_of_forwards_of_recursive hkeyed hforwards hw hlayer hc hid
  have hmutual : g.id ∈ c → (CallGraph.ofProgram p).callees.Reaches g.id w.id := fun hgc =>
    ((CallGraph.mem_iff_mutual_of_layer _ rfl hlayer hc hid).1 hgc).2
  rcases summarizeComponent_cases (r := r) (fun _ => exists_function_of_mem_valid)
    (fun id f hf hcalls => CallGraph.edge_of_calls hkeyed hf hcalls)
    (fun hrecursive => hrounds.resolve_right (not_not.2 (hmutual (hmember hrecursive))))
    (hfrom.component _ hwc) with ⟨n, next, settled, -, hloop, hsettles, hresults⟩ | ⟨hrecursive, rfl⟩
  · have hprovides := (r.provides_empty _).rounds hkeyed hloop
    obtain ⟨t, ht, hcase⟩ := hsettles w.id hwc w hw
    have hfunction : t.function = w.id := (hprovides w.id t ht).2.1
    have hpublished := (hfrom.published t (hresults ▸ OrderedMap.mem_values_iff.2 ⟨w.id, ht⟩)).summary
    have htknown : t.unknown = false := known_of_rounds_of_forwards hforwards hvisits hw hloop ht
    obtain ⟨new, hnew, hsame⟩ := hcase.resolve_left (by rw [htknown]; exact Bool.false_ne_true)
    obtain ⟨view', hunmarked, hview, hsummarize⟩ := exists_unmarked_view (r := r) (f := w)
      (view table next) fun callee u hcalls hu =>
        unmarked_of_view hkeyed h hfrom (fun _ _ => unmarked_of_rounds hloop) hid hw hcalls hu
    refine ⟨t, view', new, hfunction ▸ hpublished, htknown, hunmarked, ?_, hsummarize.trans hnew, hsame⟩
    rw [hview g.id hcalls, hfrom.view_eq hresults hprovides hid hedge, hs]
  · -- the function that is forwarded to would have failed too
    obtain ⟨u, hu, hfunction⟩ :=
      hfrom.spec.complete g.id (mem_membersOf_iff.2 ⟨hmember hrecursive, hgv⟩)
    have hget := (hfrom.published u hu).summary
    rw [hfunction, hs, Option.some.injEq] at hget
    obtain ⟨_, _, _, -, -, rfl⟩ := exists_of_mem_failedMembers hu
    rw [hget] at hknown
    cases hknown

/-- **A function that forwards returns what the other one returns, but for the globals.**  Its published
summary lets through to the result whatever the summary of the other function lets through, except what
comes from globals, together with a parameter that has the name of the result; and it makes the same
labels.  In a recursion the members need more than one round. -/
theorem result_of_forwards (p : Program) (rules : Registry) (limits : ResolveLimits)
    (hkeyed : p.WellKeyed) (allowance left : Allowance) (res : Resolution)
    (h : (ofProgram p rules limits ∅).resolve allowance = .ok (res, left)) (w g : Function)
    (hw : p.functions.get? w.id = some w) (hg : p.functions.get? g.id = some g) (kept : String)
    (hforwards : w.Forwards g rules p.globals kept) (hreceiver : g.receiverSlot? = none) (s : Summary)
    (hs : res.summaries.get? g.id = some s) (hknown : s.unknown = false)
    (hrounds : limits.maxRounds ≠ 1 ∨ ¬ (CallGraph.ofProgram p).callees.Reaches g.id w.id) :
    ∃ t, res.summaries.get? w.id = some t ∧ t.unknown = false ∧
      (∀ m, t.Has (.flow (.text m) (.text returnSlot)) ↔
        (s.Has (.flow (.text m) (.text returnSlot)) ∧ globalOfMarker? m = none) ∨
          ∃ index p, g.params[index]? = some p ∧ p.name = returnSlot ∧ m = paramMarker index) ∧
      ∀ i, t.Has (.made returnSlot i) ↔ s.Has (.made returnSlot i) := by
  let r := ofProgram p rules limits ∅
  obtain ⟨hgv, g', below, hg', hbelow, hsummarize⟩ := exists_summarize_of_known hkeyed h hs hknown
  obtain rfl : g = g' := Option.some.inj (hg.symm.trans hg')
  obtain ⟨g', hg', hdefect⟩ := mem_validFunctions_iff.1 hgv
  obtain rfl : g = g' := Option.some.inj (hg.symm.trans hg')
  rcases summarize_cases hsummarize with ⟨b, hb, rfl⟩ | ⟨error, rfl⟩
  · have hvisits := Frame.pos_of_analyze hb
    obtain ⟨t, view, new, ht, htknown, hview, hgview, hnew, hsame⟩ :=
      exists_summary_of_forwards hkeyed h hforwards hw hg hs hknown hvisits hrounds
    obtain ⟨a, ha, rfl⟩ := summarize_of_forwards hforwards hvisits hnew
    have hframes : (r.frameOf view w).function.Forwards (r.frameOf below g).function
        (r.frameOf view w).rules (r.frameOf view w).globals kept := hforwards
    have heffect : (r.frameOf view w).effects g.id = some (Summary.ofAnalysis g b).toEffect :=
      congrArg (Option.map Summary.toEffect) hgview
    obtain ⟨hflows, hmade⟩ := Frame.has_return_iff_of_forwards hframes rfl
      (Function.nodup_paramNames_of_isValid (Option.isNone_iff_eq_none.2 hdefect)) hreceiver
      (mem_functionIds_iff.2 (Or.inl ⟨g, hg⟩)) heffect hb
      (fun i hi => symbols_of_calleesMake hbelow hi) ha (fun i hi => symbols_of_calleesMake hview hi)
    refine ⟨t, ht, htknown, fun m => ?_, fun i => ?_⟩
    · exact (Effect.has_iff_of_same hsame _).symm.trans (hflows m)
    · exact (Effect.has_iff_of_same hsame _).symm.trans (hmade i)
  · cases hknown

end Resolver

/-- Returns its parameter and a global. -/
def mixer : Function :=
  .bare "g" "end" ["x"] [("end", { Node.bare .ret [] with operands := ["x", "G"] })]

/-- Forwards to `mixer`. -/
def wrapper : Function :=
  .bare "w" "call" ["x"]
    [("call", { Node.bare .call ["end"] with
        callee := .text "g", args := [some "x"], target := .text "r" }),
      ("end", { Node.bare .ret [] with operands := ["r"] })]

def wrapped : Program where
  functions := .ofList [("g", mixer), ("w", wrapper)]
  globals := .ofList ["G"]
  malformed := ∅

theorem wrapper_forwards : wrapper.Forwards mixer (.empty ∅) wrapped.globals "r" where
  params := rfl
  receiver := rfl
  own := by decide
  hidden := by decide
  body := by
    refine ⟨"end", _, _, rfl, ⟨rfl, rfl, rfl, rfl, rfl, rfl, rfl, rfl, rfl⟩, rfl,
      ⟨rfl, rfl, rfl, rfl⟩, ?_⟩
    intro id n hn
    have hkey : id ∈ wrapper.nodes.keys := Table.mem_keys_iff.2 ⟨n, hn⟩
    have hkeys : wrapper.nodes.keys = ["call", "end"] := rfl
    rw [hkeys] at hkey
    exact List.mem_pair.1 hkey

theorem wrapped_wellKeyed : wrapped.WellKeyed := Program.wellKeyed_of_all (by decide +kernel)

/-- What `mixer` and `wrapper` get published. -/
theorem resolve_wrapped : ∃ res left,
    (Resolver.ofProgram wrapped (.empty ∅) ⟨5, 3⟩ ∅).resolve .unlimited = .ok (res, left) ∧
      (∃ s, res.summaries.get? "g" = some s ∧ s.unknown = false ∧
        s.Has (.flow (.text "param:0") (.text returnSlot)) ∧
        s.Has (.flow (.text "global:G") (.text returnSlot))) ∧
      ∃ t, res.summaries.get? "w" = some t ∧ t.unknown = false ∧
        ¬ t.Has (.flow (.text "global:G") (.text returnSlot)) := by
  obtain ⟨⟨res, left⟩, hres, hfound⟩ := Result.exists_ok_of_any
    (r := (Resolver.ofProgram wrapped (.empty ∅) ⟨5, 3⟩ ∅).resolve .unlimited)
    (p := fun result =>
      (result.1.summaries.get? "g").any (fun s => !s.unknown &&
        s.transfers.toList.any (fun t => t.input = .text "param:0" && t.output = .text returnSlot) &&
        s.transfers.toList.any (fun t => t.input = .text "global:G" && t.output = .text returnSlot)) &&
      (result.1.summaries.get? "w").any (fun t => !t.unknown &&
        !t.transfers.toList.any (fun t => t.input = .text "global:G" && t.output = .text returnSlot)))
    (by decide +kernel)
  have hhas : ∀ (s : Summary) (input output : Atom),
      s.transfers.toList.any (fun t => t.input = input && t.output = output) = true ↔
        s.Has (.flow input output) := fun s input output => by
    simp [Effect.Has, OrderedSet.mem_def]
  simp only [Bool.and_eq_true, Option.any_eq_true, Bool.not_eq_true', hhas] at hfound
  obtain ⟨⟨s, hs, ⟨hknown, hparam⟩, hglobal⟩, t, ht, htknown, hnot⟩ := hfound
  refine ⟨res, left, hres, ⟨s, hs, hknown, hparam, hglobal⟩, t, ht, htknown, ?_⟩
  rw [← hhas, hnot]
  exact Bool.false_ne_true

/-- The parameter comes back through the wrapper. -/
theorem result_of_forwards_wrapped : ∃ res left t,
    (Resolver.ofProgram wrapped (.empty ∅) ⟨5, 3⟩ ∅).resolve .unlimited = .ok (res, left) ∧
      res.summaries.get? "w" = some t ∧ t.unknown = false ∧
      t.Has (.flow (.text "param:0") (.text returnSlot)) := by
  obtain ⟨res, left, hres, ⟨s, hs, hknown, hparam, -⟩, -⟩ := resolve_wrapped
  obtain ⟨t, ht, htknown, hflows, -⟩ := Resolver.result_of_forwards wrapped (.empty ∅) ⟨5, 3⟩
    wrapped_wellKeyed .unlimited left res hres wrapper mixer rfl rfl "r" wrapper_forwards rfl s hs hknown
    (Or.inl (by decide))
  exact ⟨res, left, t, hres, ht, htknown, (hflows "param:0").2 (Or.inl ⟨hparam, by decide⟩)⟩

/-- **A global does not come through**: `mixer` returns it, `wrapper` returns what `mixer` returns, and
its summary does not say so. -/
theorem not_result_wrapped : wrapper.Forwards mixer (.empty ∅) wrapped.globals "r" ∧
    mixer.receiverSlot? = none ∧ ∃ res left s t,
      (Resolver.ofProgram wrapped (.empty ∅) ⟨5, 3⟩ ∅).resolve .unlimited = .ok (res, left) ∧
      res.summaries.get? "g" = some s ∧ s.unknown = false ∧
      res.summaries.get? "w" = some t ∧ t.unknown = false ∧
      s.Has (.flow (.text "global:G") (.text returnSlot)) ∧
      ¬ t.Has (.flow (.text "global:G") (.text returnSlot)) := by
  obtain ⟨res, left, hres, ⟨s, hs, hknown, -, hglobal⟩, t, ht, htknown, hnot⟩ := resolve_wrapped
  exact ⟨wrapper_forwards, rfl, res, left, s, t, hres, hs, hknown, ht, htknown, hglobal, hnot⟩

end TaintFlow
