import TaintFlow.Proofs.Flow.Tapped
import TaintFlow.Proofs.Summary.Failures

/-!
# Summaries under one source more

Where more labels reach the end of a function, its summary spreads further (`Summary.spreads_of_exit`).  So
with one source more every provisional summary is spread by the summary that is published in the end:
component by component, since callers go by what was published for lower layers, and round by round, since
members go by what the others have by then (`Resolver.spreadsAt_of_resolve`).  Only functions that could be
analysed both times are compared.
-/

namespace TaintFlow

/-! ### The summary of one function -/

/-- A global that holds anything but its own marker at the end was written. -/
theorem Frame.writes_of_carries {frame : Frame} {visits : Amount} {a : Analysis}
    (h : frame.analyze visits (frame.function.symbolicInputs frame.globals) = .ok a) {name : String}
    (hvisible : ¬ frame.function.IsPassed (.text name))
    (hapart : ∀ node n, frame.function.node? node = some n → frame.function.key node ≠ globalKey name)
    {i : Identity} (hi : a.exit.Carries (.text name) i) (hne : i ≠ markerIdentity (globalMarker name)) :
    a.Writes name := by
  rcases definedBy_or_given_of_carries_exit h hi with ⟨-, hgiven⟩ | ⟨id, n, hn, hd⟩
  · obtain ⟨m, rfl, hmarks⟩ := Function.has_symbolicInputs_iff.1 hgiven
    refine absurd ?_ hne
    have hinput := hmarks.input
    generalize hx : (Key.text name : Slot) = x at hinput
    cases hinput with
    | @param index param hparam =>
      exact absurd (Or.inl ⟨param, List.mem_of_getElem? hparam, hx⟩) hvisible
    | receiver hreceiver => exact absurd (Or.inr (hx ▸ hreceiver)) hvisible
    | global => rw [Key.text.inj hx]
  · exact ⟨_, hapart id n hn, hd⟩

namespace Summary

variable {f : Function} {globals : Names} {a a' : Analysis}

theorem isOutput_of_mem_outputs (hglobals : a.globals = f.globalsIn globals) {o : Output}
    (ho : o ∈ outputs f a) : f.IsOutput globals (.text o.marker) := by
  simp only [outputs, List.cons_append, List.mem_cons, List.mem_append, List.mem_map, List.mem_filter]
    at ho
  rcases ho with rfl | ⟨⟨index, p⟩, ⟨hp, hout⟩, rfl⟩ | ⟨name, ⟨hname, -⟩, rfl⟩
  · exact .result
  · exact .param (Function.mem_indexedParams_iff.1 hp) hout
  · refine .global ?_
    rw [hglobals] at hname
    exact (OrderedSet.mem_filter.1 hname).1

/-- An output of the first analysis is one of the second analysis, if a global that it may be was written
there. -/
theorem mem_outputs_of_writes (hglobals : a'.globals = a.globals) {o : Output} (ho : o ∈ outputs f a)
    (hwrites : ∀ name, o.marker = globalMarker name → o.slot = name → name ∈ a.globals → a'.Writes name) :
    o ∈ outputs f a' := by
  simp only [outputs, List.cons_append, List.mem_cons, List.mem_append, hglobals] at ho ⊢
  rcases ho with hreturn | hparam | hglobal
  · exact Or.inl hreturn
  · exact Or.inr (Or.inl hparam)
  · refine Or.inr (Or.inr ?_)
    obtain ⟨name, hname, rfl⟩ := List.mem_map.1 hglobal
    have hin := (List.mem_filter.1 hname).1
    refine List.mem_map.2 ⟨name, List.mem_filter.2 ⟨hin, ?_⟩, rfl⟩
    rw [Bool.not_eq_true']
    exact Analysis.writes_iff.2 (hwrites name rfl rfl hin)

/-- **Where more labels reach the end, the summary spreads further.** -/
theorem spreads_of_exit (hglobals : a'.globals = a.globals) (hexit : a.exit.Spreads a'.exit)
    (hwrites : ∀ name ∈ a.globals, ∀ i, a'.exit.Carries (.text name) i →
      i ≠ markerIdentity (globalMarker name) → a'.Writes name) :
    (ofAnalysis f a).toEffect.Spreads (ofAnalysis f a').toEffect := by
  have houtputs : ∀ o ∈ outputs f a, ∀ i, a.exit.Carries (.text o.slot) i →
      i ≠ markerIdentity o.marker → o ∈ outputs f a' := by
    intro o ho i hi hne
    refine mem_outputs_of_writes hglobals ho fun name hmarker hslot hname => ?_
    rw [hslot] at hi
    rw [hmarker] at hne
    exact hwrites name hname i (hexit _ i hi) hne
  constructor
  · intro t ht hown
    obtain ⟨o, ho, l, hl, m, hm, -, rfl⟩ := mem_transfers_iff.1 ht
    have hne : m ≠ o.marker := fun he => hown (congrArg Atom.text he)
    have hi : a.exit.Carries (.text o.slot) l.identity := TaintSet.has_iff.2 ⟨l, hl, rfl⟩
    obtain ⟨l', hl', he⟩ := TaintSet.has_iff.1 (hexit _ _ hi)
    have hm' : m ∈ l'.symbols := by
      have hsymbols : l'.symbols = l.symbols := congrArg Identity.symbols he
      rwa [hsymbols]
    refine ⟨_, mem_transfers_iff.2 ⟨o, houtputs o ho _ hi fun hmarker => hne ?_, l', hl', m, hm',
      Or.inl hne, rfl⟩, rfl, rfl⟩
    have hsymbols : l.symbols = .singleton o.marker := congrArg Identity.symbols hmarker
    rw [hsymbols] at hm
    exact OrderedSet.mem_singleton.1 hm
  · intro output i hi
    obtain ⟨o, ho, he, hi⟩ := has_getD_generated_iff.1 hi
    obtain ⟨j, hj, horigins, rfl⟩ := TaintSet.has_concrete_iff.1 hi
    refine has_getD_generated_iff.2 ⟨o, houtputs o ho j hj ?_, he,
      TaintSet.has_concrete_iff.2 ⟨j, hexit _ j hj, horigins, rfl⟩⟩
    rintro rfl
    cases horigins

end Summary

namespace Effect

theorem has_getD_generated_of_same {e e' : Effect} (h : e.same e' = true) {output : String}
    {i : Identity} (hi : (e.generated.getD output ∅).has i = true) :
    (e'.generated.getD output ∅).has i = true := by
  obtain ⟨-, -, ⟨hkeys, hsame⟩, -⟩ := same_iff.1 h
  obtain ⟨taint, ht, hi⟩ := OrderedMap.has_getD_iff.1 hi
  have hkey : output ∈ e'.generated.keys := hkeys ▸ OrderedMap.mem_keys_iff.2 ⟨taint, ht⟩
  obtain ⟨taint', ht'⟩ := OrderedMap.mem_keys_iff.1 hkey
  refine OrderedMap.has_getD_iff.2 ⟨taint', ht', ?_⟩
  rw [← TaintSet.same_iff.1 (hsame output taint taint' ht ht') i]
  exact hi

theorem Spreads.of_same {e e' e'' : Effect} (h : e.Spreads e') (hsame : e'.same e'' = true) :
    e.Spreads e'' where
  flows := (same_iff.1 hsame).2.1 ▸ h.flows
  makes output i hi := has_getD_generated_of_same hsame (h.makes output i hi)

end Effect

namespace Resolver

/-- What callers of a function go by. -/
def effectAt (view : String → Option Summary) (id : String) : Effect :=
  ((view id).map Summary.toEffect).getD .pending

theorem effectAt_of_eq_some {view : String → Option Summary} {id : String} {s : Summary}
    (h : view id = some s) : effectAt view id = s.toEffect := by
  rw [effectAt, h]
  rfl

theorem effectAt_congr {view view' : String → Option Summary} {id : String} (h : view id = view' id) :
    effectAt view id = effectAt view' id := by
  rw [effectAt, h]
  rfl

theorem fits_of_summarize {r : Resolver} {view : String → Option Summary} {id : String}
    {f : Function} {s : Summary} (hf : r.program.functions.get? id = some f)
    (h : r.summarize view f = .ok s) : r.program.Fits id s.toEffect := by
  rcases summarize_cases h with ⟨a, ha, rfl⟩ | ⟨error, rfl⟩
  · intro t ht
    obtain ⟨o, ho, l, -, m, -, -, rfl⟩ := Summary.mem_transfers_iff.1 ht
    exact ⟨f, hf, Summary.isOutput_of_mem_outputs (Frame.globals_of_analyze ha) ho⟩
  · exact r.program.fits_pending id

variable {p : Program} {rules : Registry} {api : String} {rule : SourceRule} {limits : ResolveLimits}

/-- **The summary of one function spreads further**, if the summaries do of the functions that it calls. -/
theorem spreads_of_summarize (hp : p.Tidy) (hpass : rules.LetsPass api) (htaps : p.TapsFreely api)
    {id : String} {f : Function} (hf : p.functions.get? id = some f)
    {view view' : String → Option Summary} {s s' : Summary}
    (hviews : ∀ callee, f.Calls p.functionIds callee →
      p.SpreadsAt callee (effectAt view callee) (effectAt view' callee))
    (h : (ofProgram p rules limits ∅).summarize view f = .ok s)
    (h' : (ofProgram p (rules.withSource api rule) limits ∅).summarize view' f = .ok s')
    (hknown : s.unknown = false) (hknown' : s'.unknown = false) : s.toEffect.Spreads s'.toEffect := by
  rcases summarize_cases h with ⟨a, ha, rfl⟩ | ⟨error, rfl⟩
  · rcases summarize_cases h' with ⟨a', ha', rfl⟩ | ⟨error, rfl⟩
    · have hglobals := Frame.globals_of_analyze ha
      have hglobals' := Frame.globals_of_analyze ha'
      have hspreads : ((ofProgram p rules limits ∅).frameOf view f).Spreads (rules.withSource api rule)
          (fun id => (view' id).map Summary.toEffect) :=
        hp.spreads hpass htaps rule hf hviews
      have hexit : a.exit.Spreads a'.exit := by
        intro x i hi
        have hflow : (Fact.exit x i).IsFlow := trivial
        exact hspreads.finds ha ha' (fun _ _ hi => hi) hflow hi
      refine Summary.spreads_of_exit (hglobals'.trans hglobals.symm) hexit ?_
      intro name hname i hi hne
      rw [hglobals] at hname
      have hin : name ∈ p.globals := (OrderedSet.mem_filter.1 hname).1
      exact Frame.writes_of_carries ha' (hp.visible id f hf name hin)
        (fun node n hn => hp.apart id f hf node n hn name hin) hi hne
    · cases hknown'
  · cases hknown

/-- What is published in the end spreads a summary that is made on the way. -/
theorem spreadsAt_of_consistent (hp : p.Tidy) (hpass : rules.LetsPass api) (htaps : p.TapsFreely api)
    {id : String} {f : Function} (hf : p.functions.get? id = some f)
    {view : String → Option Summary} {table : NameMap Summary} {s s' : Summary}
    (hviews : ∀ callee, f.Calls p.functionIds callee →
      p.SpreadsAt callee (effectAt view callee) (effectAt table.get? callee))
    (h : (ofProgram p rules limits ∅).summarize view f = .ok s) (hknown : s.unknown = false)
    (hconsistent : (ofProgram p (rules.withSource api rule) limits ∅).Consistent table id)
    (hs' : table.get? id = some s') (hknown' : s'.unknown = false) :
    p.SpreadsAt id s.toEffect s'.toEffect := by
  obtain ⟨new, hnew, hsame⟩ := hconsistent f s' hf hs' hknown'
  have hnewKnown : new.unknown = false := (Effect.same_iff.1 hsame).1.trans hknown'
  refine ⟨hknown.trans hknown'.symm, fun _ => ?_, fun _ => fits_of_summarize hf h⟩
  exact (spreads_of_summarize hp hpass htaps hf hviews h hnew hknown hnewKnown).of_same hsame

/-- All functions that could be read and have no defect have known summaries. -/
def Complete (p : Program) (res : Resolution) : Prop :=
  ∀ id ∈ validFunctions p, ∃ s, res.summaries.get? id = some s ∧ s.unknown = false

instance {res : Resolution} : Decidable (Complete p res) :=
  decidable_of_iff ((validFunctions p).toList.all (fun id =>
    (res.summaries.get? id).any (fun s => !s.unknown)) = true)
    (by simp [Complete, OrderedSet.mem_def, Option.any_eq_true])

theorem spreadsAt_of_failed {view view' : String → Option Summary} {id : String}
    (h : ∃ s, view id = some s ∧ s.unknown = true) (h' : ∃ s, view' id = some s ∧ s.unknown = true) :
    p.SpreadsAt id (effectAt view id) (effectAt view' id) := by
  obtain ⟨s, hs, hunknown⟩ := h
  obtain ⟨s', hs', hunknown'⟩ := h'
  rw [effectAt_of_eq_some hs, effectAt_of_eq_some hs']
  have hnot : s.toEffect.unknown ≠ false := by
    intro hknown
    cases hunknown.symm.trans hknown
  exact ⟨hunknown.trans hunknown'.symm, fun hknown => absurd hknown hnot,
    fun hknown => absurd hknown hnot⟩

/-- Before the first layer a function that can be analysed has an effect that is spread by anything, and any
other one has failed. -/
theorem spreadsAt_initial (hp : p.Tidy) {res' : Resolution} (hcomplete' : Complete p res')
    (hfailed' : ∀ id ∈ p.functionIds, id ∉ validFunctions p → Failed res' id) {previous : NameMap Summary}
    {view : String → Option Summary} {id : String} (hid : id ∈ p.functionIds)
    (hview : view id = (ofProgram p rules limits previous).initial.summaries.get? id) :
    p.SpreadsAt id (effectAt view id) (effectAt res'.summaries.get? id) := by
  by_cases hv : id ∈ validFunctions p
  · obtain ⟨s', hs', hknown'⟩ := hcomplete' id hv
    have hnone : view id = none :=
      hview.trans (initial_of_fit (not_unfit_of_mem_validFunctions (hp.read id) hv)).1
    have hpending : effectAt view id = .pending := by
      rw [effectAt, hnone]
      rfl
    rw [hpending, effectAt_of_eq_some hs']
    exact ⟨hknown'.symm, fun _ => .pending _, fun _ => p.fits_pending id⟩
  · obtain ⟨s, hs, hunknown⟩ := failed_initial (r := ofProgram p rules limits previous)
      (unfit_of_not_mem_valid rfl hid hv)
    exact spreadsAt_of_failed ⟨s, hview.trans hs, hunknown⟩ (hfailed' id hid hv)

theorem spreadsAt_view {table provisional : NameMap Summary} {view' : String → Option Summary}
    {callee : String}
    (hprovisional : ∀ s, provisional.get? callee = some s →
      p.SpreadsAt callee s.toEffect (effectAt view' callee))
    (htable : p.SpreadsAt callee (effectAt table.get? callee) (effectAt view' callee)) :
    p.SpreadsAt callee (effectAt (view table provisional) callee) (effectAt view' callee) := by
  cases hget : provisional.get? callee with
  | some s =>
    have hview : view table provisional callee = some s := by rw [view, hget, Option.some_or]
    rw [effectAt_of_eq_some hview]
    exact hprovisional s hget
  | none =>
    have hview : view table provisional callee = table.get? callee := by
      rw [view, hget, Option.none_or]
    have heffect : effectAt (view table provisional) callee = effectAt table.get? callee :=
      effectAt_congr hview
    rw [heffect]
    exact htable

/-- The rounds of a component keep to it that every provisional summary is spread by the one that is
published in the end. -/
theorem spreadsAt_of_rounds (hp : p.Tidy) (hpass : rules.LetsPass api) (htaps : p.TapsFreely api)
    {res' : Resolution} (hcomplete' : Complete p res') {table next : NameMap Summary} {c : Names} {n : Nat}
    {settled : Bool}
    (hconsistent : ∀ id ∈ c, id ∈ validFunctions p →
      (ofProgram p (rules.withSource api rule) limits ∅).Consistent res'.summaries id)
    (htable : ∀ id ∈ c, ∀ f, p.functions.get? id = some f → ∀ callee, f.Calls p.functionIds callee →
      p.SpreadsAt callee (effectAt table.get? callee) (effectAt res'.summaries.get? callee))
    (hrounds : (ofProgram p rules limits ∅).rounds table ((ofProgram p rules limits ∅).membersOf c) n ∅ =
      .ok (next, settled))
    (hknown : ∀ id s, next.get? id = some s → s.unknown = false) :
    ∀ id s, next.get? id = some s → p.SpreadsAt id s.toEffect (effectAt res'.summaries.get? id) := by
  refine rounds_induction_of_known (motive := fun provisional => ∀ id s, provisional.get? id = some s →
    p.SpreadsAt id s.toEffect (effectAt res'.summaries.get? id)) hrounds hknown ?_ ?_
  · intro id s hs
    cases hs
  · intro provisional id f new hid hprovisional hf hnew hnewKnown other s hs
    rw [OrderedMap.get?_set] at hs
    split at hs
    · next he =>
      subst he
      cases hs
      obtain ⟨hidc, hvalid⟩ := mem_membersOf_iff.1 hid
      obtain ⟨s', hs', hknown'⟩ := hcomplete' other hvalid
      rw [effectAt_of_eq_some hs']
      refine spreadsAt_of_consistent hp hpass htaps hf (fun callee hcalls => ?_) hnew hnewKnown
        (hconsistent other hidc hvalid) hs' hknown'
      exact spreadsAt_view (hprovisional callee) (htable other hidc f hf callee hcalls)
    · exact hprovisional other s hs

/-- **The summaries of a component spread further**, if those outside do that it goes by. -/
theorem spreadsAt_of_settled (hp : p.Tidy) (hpass : rules.LetsPass api) (htaps : p.TapsFreely api)
    {res res' : Resolution} {c : Names} (hsettled : (ofProgram p rules limits ∅).Settled res c)
    (hcomplete : Complete p res) (hcomplete' : Complete p res')
    (hfailed' : ∀ id ∈ p.functionIds, id ∉ validFunctions p → Failed res' id)
    (hconsistent : ∀ id ∈ c, id ∈ validFunctions p →
      (ofProgram p (rules.withSource api rule) limits ∅).Consistent res'.summaries id)
    (hlower : ∀ id ∈ c, ∀ callee, (CallGraph.ofProgram p).callees.Edge id callee → callee ∉ c →
      callee ∈ p.functionIds →
        p.SpreadsAt callee (effectAt res.summaries.get? callee) (effectAt res'.summaries.get? callee))
    {id : String} (hid : id ∈ c) (hv : id ∈ validFunctions p) :
    p.SpreadsAt id (effectAt res.summaries.get? id) (effectAt res'.summaries.get? id) := by
  rcases hsettled with ⟨hinherited, -⟩ | ⟨-, table, hown, hbelow, results, hcomponent, hspec, hpublished, -⟩
  · exact absurd hinherited (not_inherited rfl)
  have hknown : ∀ s ∈ results, res.summaries.get? s.function = some s ∧ s.unknown = false := by
    intro s hs
    have hget := (hpublished s hs).summary
    obtain ⟨t, ht, hknown⟩ := hcomplete s.function (mem_membersOf_iff.1 (hspec.owned s hs).1).2
    obtain rfl : s = t := Option.some.inj (hget.symm.trans ht)
    exact ⟨hget, hknown⟩
  have htable : ∀ id ∈ c, ∀ f, p.functions.get? id = some f → ∀ callee,
      f.Calls p.functionIds callee →
        p.SpreadsAt callee (effectAt table.get? callee) (effectAt res'.summaries.get? callee) := by
    intro id hid f hf callee hcalls
    have hedge := CallGraph.edge_of_calls hp.keyed hf hcalls
    obtain ⟨-, -, -, -, -, hcallee, -⟩ := hcalls
    by_cases hin : callee ∈ c
    · exact spreadsAt_initial hp hcomplete' hfailed' hcallee (hown callee hin)
    · have heffect : effectAt table.get? callee = effectAt res.summaries.get? callee :=
        effectAt_congr (hbelow id hid callee hedge hin)
      rw [heffect]
      exact hlower id hid callee hedge hin hcallee
  obtain ⟨s, hs, rfl⟩ := hspec.complete id (mem_membersOf_iff.2 ⟨hid, hv⟩)
  rw [effectAt_of_eq_some (hknown s hs).1]
  obtain ⟨next, settled, hrounds, ⟨-, rfl⟩ | ⟨-, -, rfl⟩⟩ :=
    results_cases (hcomponent _ (mem_membersOf_iff.2 ⟨hid, hv⟩))
  · have hprovides : (ofProgram p rules limits ∅).Provides
        ((ofProgram p rules limits ∅).membersOf c) next :=
      Provides.rounds (fun id s hs => by cases hs) hp.keyed hrounds
    refine spreadsAt_of_rounds hp hpass htaps hcomplete' hconsistent htable hrounds (fun id s hget => ?_)
      s.function s (hprovides.mem_values_iff.1 hs)
    exact (hknown s (OrderedMap.mem_values_iff.2 ⟨id, hget⟩)).2
  · -- a component that does not settle has no known summary
    obtain ⟨_, _, _, -, -, rfl⟩ := exists_of_mem_failedMembers hs
    cases (hknown _ hs).2

/-- **With one source more the published summaries spread further**, if all functions could be analysed
both times. -/
theorem spreadsAt_of_resolve (hp : p.Tidy) (hpass : rules.LetsPass api) (htaps : p.TapsFreely api)
    (hrounds : 2 ≤ limits.maxRounds) {allowance allowance' left left' : Allowance}
    {res res' : Resolution}
    (h : (ofProgram p rules limits ∅).resolve allowance = .ok (res, left))
    (h' : (ofProgram p (rules.withSource api rule) limits ∅).resolve allowance' = .ok (res', left'))
    (hcomplete : Complete p res) (hcomplete' : Complete p res') {id : String} (hid : id ∈ p.functionIds) :
    p.SpreadsAt id (effectAt res.summaries.get? id) (effectAt res'.summaries.get? id) := by
  have hlayered := CallGraph.layered_layers (CallGraph.ofProgram p) rfl
  have hpublished := published_of_resolve hp.keyed hrounds h
  have hpublished' := published_of_resolve hp.keyed hrounds h'
  have hall : ∀ layer ∈ (CallGraph.ofProgram p).layers, ∀ c ∈ layer, ∀ id ∈ c, id ∈ p.functionIds →
      p.SpreadsAt id (effectAt res.summaries.get? id) (effectAt res'.summaries.get? id) := by
    refine hlayered.induction (List.append_nil _).symm ?_
    intro layer hlayer c hc hlower id hidc hid
    by_cases hv : id ∈ validFunctions p
    · refine spreadsAt_of_settled hp hpass htaps
        ((stage_of_resolve hp.keyed h).settled layer hlayer c hc) hcomplete hcomplete'
        hpublished'.failed (hpublished'.consistent layer hlayer c hc) ?_ hidc hv
      exact fun id hid callee hedge hout => (hlower id hid callee hedge hout).2
    · exact spreadsAt_of_failed (hpublished.failed id hid hv) (hpublished'.failed id hid hv)
  obtain ⟨layer, hlayer, c, hc, hidc⟩ := exists_component hid
  exact hall layer hlayer c hc id hidc hid

end Resolver

end TaintFlow
