import TaintFlow.Proofs.Concrete.Solution
import TaintFlow.Proofs.Summary.Spread

/-!
# A pass under one source more

Two passes over one program start from the same functions and follow the same calls, if they have the same
usable functions.  If besides every call does in the second pass with labels all that it does in the first
one (`ConcretePass.Spreads`), then a consistent solution of the second pass takes in what the first one
passes on: what a function gives to a global is either written there or was taken from the global
(`Consistent.globalHolds_of_carries`).  So the first pass stays below (`Spreads.exists_covers`).
-/

namespace TaintFlow.ConcretePass

variable {p : ConcretePass} {c d : ConcreteState} {id name : String} {f : Function} {a b : Analysis}
  {i : Identity}

/-- **What a global holds at the end of a function the tables hold**, written or not. -/
theorem Consistent.globalHolds_of_carries (hd : p.Consistent d) (hp : p.program.Tidy)
    (hf : p.program.functions.get? id = some f) (hb : d.analyses.get? id = some b)
    (hname : name ∈ f.globalsIn p.program.globals) (hi : b.exit.Carries (.text name) i) :
    d.GlobalHolds (.text name) i := by
  obtain ⟨f', b', hf', hb', hagree⟩ := hd.fresh id b hb
  obtain rfl : f = f' := Option.some.inj (hf.symm.trans hf')
  have hglobal : name ∈ p.program.globals := (OrderedSet.mem_filter.1 hname).1
  have hvisible := hp.visible id f hf
  have hslots : ∀ x, (d.passed.getD f.id ∅).contains x = true → f.IsPassed x := fun x =>
    hd.slots f.id f x ((hp.keyed id f hf).symm ▸ hf)
  rcases Frame.definedBy_or_given_of_carries_exit hb' ((hagree (.exit (.text name) i) trivial).1 hi) with
    ⟨-, hgiven⟩ | ⟨node, n, hn, hdefined⟩
  · rcases (has_inputs_iff hslots hvisible).1 hgiven with hdeclared | hpassed | ⟨-, hheld⟩
    · refine absurd (isPassed_of_declaredInputs ?_) (hvisible name hglobal)
      obtain ⟨taint, htaint, -⟩ := OrderedMap.has_getD_iff.1 hdeclared
      rw [OrderedMap.contains, htaint]
      rfl
    · refine absurd (hslots _ ?_) (hvisible name hglobal)
      obtain ⟨taint, htaint, -⟩ := OrderedMap.has_getD_iff.1 hpassed
      rw [OrderedMap.contains, htaint]
      rfl
    · exact hheld
  · have hwrites : b.Writes name := ⟨f.key node, hp.apart id f hf node n hn name hglobal,
      (hagree (.exitDefined (.text name) (f.key node)) trivial).2 hdefined⟩
    exact TaintSet.isSubset_iff.1 (hd.globals id f b hf hb name hname hwrites) i hi

/-! ### Two passes -/

def under (p : ConcretePass) (rules : Registry) (summaries : NameMap Summary) : ConcretePass :=
  { p with rules := rules, summaries := summaries }

/-- With other rules and summaries the same functions are usable, and their calls do with labels all that
they did. -/
structure Spreads (p : ConcretePass) (rules : Registry) (summaries : NameMap Summary) : Prop where
  usable : ∀ id, (p.under rules summaries).isUsable id = p.isUsable id
  frames : ∀ id f, p.program.functions.get? id = some f →
    (p.frame f).Spreads rules (fun id => (summaries.get? id).map Summary.toEffect)

variable {rules : Registry} {summaries : NameMap Summary}

namespace Spreads

variable (h : p.Spreads rules summaries)

include h

theorem entries_eq : (p.under rules summaries).entries = p.entries := by
  have husable : (p.under rules summaries).isUsable = p.isUsable := funext h.usable
  unfold entries
  rw [husable]
  rfl

/-- A solution of the second pass finds every flow that an analysis of the first one finds that is given no
more than the solution holds. -/
theorem exists_coversFlows (hp : p.program.Tidy) (hd : (p.under rules summaries).Consistent d)
    (hmade : p.MadeBelow c d id f a) :
    ∃ b, d.analyses.get? id = some b ∧ (p.frame f).CoversFlows a b := by
  obtain ⟨b, hb⟩ := hmade.analysed
  obtain ⟨f', b', hf', hb', hagree⟩ := hd.fresh id b hb
  obtain rfl : f = f' := Option.some.inj (hmade.function.symm.trans hf')
  have hinputs : TaintsWithin (p.inputs c f) ((p.under rules summaries).inputs d f) :=
    inputs_within hp.visible hp.keyed hmade.function hmade.slots hd.slots hmade.below
  refine ⟨b, hb, fun fact hflow hfact => ?_⟩
  have hfound := (h.frames id f hmade.function).finds hmade.analysis hb' hinputs hflow hfact
  exact Frame.says_under.1 ((hagree fact hflow.isResult).2 (Frame.says_under.2 hfound))

theorem passes_under_iff {call : CallObservation} {x : Slot} :
    (p.under rules summaries).Passes call id x i ↔ p.Passes call id x i := by
  unfold Passes
  rw [h.usable]
  rfl

/-- **A solution of the second pass takes in what the first one passes on.** -/
theorem absorbs (hp : p.program.Tidy) (hd : (p.under rules summaries).Consistent d) : p.Absorbs d where
  entries := by
    rw [← h.entries_eq]
    exact hd.entries
  called c id f a hmade call hcall g hg husable := by
    obtain ⟨b, hb, hcovers⟩ := h.exists_coversFlows hp hd hmade
    have hflows : ((p.under rules summaries).frame f).CoversFlows a b := fun fact hflow hfact =>
      Frame.says_under.2 (hcovers fact hflow (Frame.says_under.1 hfact))
    obtain ⟨hanalysed, hholds⟩ := hd.called hp.keyed hb hflows (Frame.says_of_analyze hmade.analysis).2
      hcall hg ((h.usable g.id).trans husable)
    exact ⟨hanalysed, fun x i hpasses => hholds x i (h.passes_under_iff.2 hpasses)⟩
  written c id f a hmade name hname _ i hi := by
    obtain ⟨b, hb, hcovers⟩ := h.exists_coversFlows hp hd hmade
    exact hd.globalHolds_of_carries hp hmade.function hb hname (hcovers (.exit (.text name) i) trivial hi)

/-- **The second pass finds all flows that the first one finds**, when both have come to an end. -/
theorem exists_covers (hp : p.program.Tidy) (hd : (p.under rules summaries).Consistent d)
    (hpops : Relation.ReflTransGen p.Pops (.start p.entries) c) (hfresh : p.UpToDate c)
    (hf : p.program.functions.get? id = some f) (ha : c.analyses.get? id = some a) :
    ∃ b, d.analyses.get? id = some b ∧ (p.frame f).CoversFlows a b := by
  have hbelow := ((h.absorbs hp hd).under_of_pops hp.keyed hpops).below
  obtain ⟨g, hg, hanalysis⟩ := hfresh id a ha
  obtain rfl : f = g := Option.some.inj (hf.symm.trans hg)
  exact h.exists_coversFlows hp hd
    ⟨hf, hbelow.analysed id a ha, (invariant_of_pops hp.keyed hpops).slots, hbelow, hanalysis⟩

end Spreads

/-! ### One source more -/

variable {program : Program} {limits : ResolveLimits} {climits : ConcreteLimits}
  {allowance allowance' left left' : Allowance} {res res' : Resolution}

/-- Usable are the functions that can be analysed, if all of those could be. -/
theorem isUsable_iff_of_complete (hkeyed : program.WellKeyed)
    (h : (Resolver.ofProgram program rules limits ∅).resolve allowance = .ok (res, left))
    (hcomplete : Resolver.Complete program res) (climits : ConcreteLimits) (id : String) :
    (ofResolution program rules res climits).isUsable id = true ↔
      id ∈ Resolver.validFunctions program := by
  have hsummaries : (ofResolution program rules res climits).summaries = res.summaries := rfl
  unfold isUsable
  rw [hsummaries]
  constructor
  · intro husable
    split at husable
    · next s hs =>
      rw [Bool.not_eq_true'] at husable
      exact (Resolver.summaryOf_of_resolve hkeyed h hs husable).1
    · cases husable
  · intro hid
    obtain ⟨s, hs, hknown⟩ := hcomplete id hid
    rw [hs]
    dsimp only
    rw [hknown]
    rfl

/-- **With one source more the calls of a whole program do with labels all that they did**, if all functions
could be analysed both times. -/
theorem spreads_of_resolve {api : String} {rule : SourceRule} (hp : program.Tidy)
    (hpass : rules.LetsPass api) (htaps : program.TapsFreely api) (hrounds : 2 ≤ limits.maxRounds)
    (h : (Resolver.ofProgram program rules limits ∅).resolve allowance = .ok (res, left))
    (h' : (Resolver.ofProgram program (rules.withSource api rule) limits ∅).resolve allowance' =
      .ok (res', left'))
    (hcomplete : Resolver.Complete program res) (hcomplete' : Resolver.Complete program res') :
    (ofResolution program rules res climits).Spreads (rules.withSource api rule) res'.summaries where
  usable id := by
    have husable := isUsable_iff_of_complete hp.keyed h hcomplete climits id
    have husable' := isUsable_iff_of_complete hp.keyed h' hcomplete' climits id
    exact Bool.eq_iff_iff.2 (husable'.trans husable.symm)
  frames id f hf := by
    refine hp.spreads hpass htaps rule hf fun callee hcalls => ?_
    obtain ⟨-, -, -, -, -, hcallee, -⟩ := hcalls
    exact Resolver.spreadsAt_of_resolve hp hpass htaps hrounds h h' hcomplete hcomplete' hcallee

end TaintFlow.ConcretePass
