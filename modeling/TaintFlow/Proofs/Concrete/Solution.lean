import TaintFlow.Proofs.Concrete.Worklist
import TaintFlow.Proofs.Flow.Spread
import TaintFlow.Proofs.Summary.Reuse

/-!
# The least consistent solution

Analyses and tables of a whole program are consistent (`ConcretePass.Consistent`) if every analysis is that
of the function with what the tables give it, and the tables hold what the analyses pass on.  A pass that
ends with every function analysed ends consistently.  Only the globals that a function mentions count: one
that it writes by a call alone may hold less than the function ends with.

Unless a parameter or receiver hides a global, what a function is analysed with grows with the tables, so in
any order of functions a pass stays below every consistent solution (`under_of_pops`); where it ends does not
depend on the order.  All that is needed of the solution is that it takes in what is passed on by functions
that are analysed with no more than it holds (`ConcretePass.Absorbs`).
-/

namespace TaintFlow

/-! ### What two analyses find -/

def Fact.IsResult : Fact → Prop
  | .reached _ | .defined _ _ _ => False
  | _ => True

theorem Fact.IsFlow.isResult {fact : Fact} (h : fact.IsFlow) : fact.IsResult := by
  cases fact with
  | reached id => exact h
  | defined id x d => exact h
  | _ => trivial

namespace Frame

variable {frame : Frame} {a b : Analysis}

def Covers (frame : Frame) (a b : Analysis) : Prop :=
  ∀ fact : Fact, fact.IsResult → frame.Says a.exit a.seen fact → frame.Says b.exit b.seen fact

/-- The flows that the first analysis finds the second one finds too. -/
def CoversFlows (frame : Frame) (a b : Analysis) : Prop :=
  ∀ fact : Fact, fact.IsFlow → frame.Says a.exit a.seen fact → frame.Says b.exit b.seen fact

def Agree (frame : Frame) (a b : Analysis) : Prop :=
  ∀ fact : Fact, fact.IsResult → (frame.Says a.exit a.seen fact ↔ frame.Says b.exit b.seen fact)

theorem Agree.refl (frame : Frame) (a : Analysis) : frame.Agree a a := fun _ _ => Iff.rfl

theorem covers_of_within {visits : Amount} {inputs inputs' : KeyMap TaintSet}
    (ha : frame.analyze visits inputs = .ok a) (hb : frame.analyze visits inputs' = .ok b)
    (h : TaintsWithin inputs inputs') : frame.Covers a b := fun fact _ hfact =>
  ((says_of_analyze hb).1 fact).2 (Yields.mono h (((says_of_analyze ha).1 fact).1 hfact))

theorem Covers.flows (h : frame.Covers a b) : frame.CoversFlows a b := fun fact hflow =>
  h fact hflow.isResult

theorem Covers.writes (h : frame.Covers a b) {name : String} (hwrites : a.Writes name) :
    b.Writes name := by
  obtain ⟨d, hne, hd⟩ := hwrites
  exact ⟨d, hne, h (.exitDefined (.text name) d) trivial hd⟩

end Frame

namespace ConcreteState

/-- The second state has analysed what the first one has, and its tables hold no less. -/
structure Below (c d : ConcreteState) : Prop where
  analysed : ∀ id a, c.analyses.get? id = some a → ∃ b, d.analyses.get? id = some b
  passed : ∀ id, TaintsWithin (c.passed.getD id ∅) (d.passed.getD id ∅)
  globals : TaintsWithin c.globals d.globals

end ConcreteState

namespace ConcretePass

variable {p : ConcretePass} {c c' d : ConcreteState} {id : String} {f : Function} {a b : Analysis}

def ofResolution (program : Program) (rules : Registry) (res : Resolution) (limits : ConcreteLimits) :
    ConcretePass :=
  ⟨program, rules, res.summaries, .ofProgram program, limits⟩

/-- Every analysis is exactly what the engine makes of the tables. -/
def UpToDate (p : ConcretePass) (c : ConcreteState) : Prop :=
  ∀ id a, c.analyses.get? id = some a → ∃ f, p.program.functions.get? id = some f ∧
    (p.frame f).analyze (.whole p.limits.maxVisits) (p.inputs c f) = .ok a

/-- A solution for the whole program, from its entry functions.  A function writes a global if a definition
other than that of the entry reaches its end. -/
structure Consistent (p : ConcretePass) (c : ConcreteState) : Prop where
  entries : ∀ id ∈ p.entries, ∃ a, c.analyses.get? id = some a
  /-- Taint is passed to parameters and receivers only. -/
  slots : ∀ id f x, p.program.functions.get? id = some f →
    (c.passed.getD id ∅).contains x = true → f.IsPassed x
  /-- Analysed anew with what the tables hold, a function has the same exit, sinks and calls. -/
  fresh : ∀ id a, c.analyses.get? id = some a → ∃ f b, p.program.functions.get? id = some f ∧
    (p.frame f).analyze (.whole p.limits.maxVisits) (p.inputs c f) = .ok b ∧ (p.frame f).Agree a b
  /-- A usable function that is called was analysed, and its table holds what the call passes to it. -/
  calls : ∀ id a, c.analyses.get? id = some a → ∀ key call, a.seen.calls.get? key = some call →
    p.isUsable call.callee = true →
      ∃ g b, p.program.functions.get? call.callee = some g ∧ c.analyses.get? call.callee = some b ∧
        (∀ (k : Nat) (param : Param) (taint : TaintSet), g.params[k]? = some param →
          call.args[k]? = some taint →
            taint.isSubset ((c.passed.getD call.callee ∅).getD (.text param.name) ∅) = true) ∧
        ∀ slot, g.receiverSlot? = some slot →
          call.receiver.isSubset ((c.passed.getD call.callee ∅).getD slot ∅) = true
  /-- The globals hold what is written to them by the functions that mention them. -/
  globals : ∀ id f a, p.program.functions.get? id = some f → c.analyses.get? id = some a →
    ∀ name ∈ f.globalsIn p.program.globals, a.Writes name →
      (a.exit.taintOf (some (.text name))).isSubset (c.globals.getD (.text name) ∅) = true

/-- No parameter or receiver is named like a global. -/
def HidesNothing (p : ConcretePass) : Prop :=
  ∀ id f, p.program.functions.get? id = some f → ∀ name ∈ p.program.globals, ¬ f.IsPassed (.text name)

/-- Every function with a summary that callers can use is one of the program. -/
def Grounded (p : ConcretePass) : Prop :=
  ∀ id, p.isUsable id = true → ∃ f, p.program.functions.get? id = some f

theorem grounded_ofResolution {program : Program} {rules : Registry} {limits : ResolveLimits}
    {previous : NameMap Summary} (hkeyed : program.WellKeyed) {allowance left : Allowance}
    {res : Resolution}
    (h : (Resolver.ofProgram program rules limits previous).resolve allowance = .ok (res, left))
    (climits : ConcreteLimits) : (ofResolution program rules res climits).Grounded := by
  intro id husable
  have hsummaries : (ofResolution program rules res climits).summaries = res.summaries := rfl
  unfold isUsable at husable
  rw [hsummaries] at husable
  split at husable
  · next s hs =>
    rw [Bool.not_eq_true'] at husable
    exact Resolver.exists_function_of_known hkeyed h hs husable
  · cases husable

/-! ### A pass that ends is consistent -/

section Ended

variable (h : p.Invariant c) (hqueue : c.queue = []) (htruncated : c.truncated = ∅)
  (hfailures : c.failures = ∅)

include h hqueue htruncated hfailures

theorem Invariant.analysed_of_met (hmet : c.Met id) : ∃ a, c.analyses.get? id = some a := by
  rcases hmet with hin | hruns | hin
  · rw [hqueue] at hin
    exact absurd hin List.not_mem_nil
  · refine (h.finished id hruns).resolve_right ?_
    rintro ⟨message, hmessage⟩
    rw [hfailures] at hmessage
    cases hmessage
  · rw [htruncated] at hin
    exact absurd hin (OrderedSet.not_mem_empty id)

theorem Invariant.upToDate : p.UpToDate c := by
  intro id a ha
  obtain ⟨f, hf, -⟩ := h.analysed id a ha
  refine ⟨f, hf, h.fresh id a ha ?_ ⟨?_, ?_⟩ f hf⟩
  · rw [hqueue]
    exact List.not_mem_nil
  · rw [htruncated]
    exact OrderedSet.not_mem_empty id
  · rw [hfailures]
    rfl

theorem Invariant.consistent (hkeyed : p.program.WellKeyed) (hgrounded : p.Grounded) :
    p.Consistent c where
  entries id hid := h.analysed_of_met hqueue htruncated hfailures (h.entries id hid)
  slots := h.slots
  fresh id a ha := by
    obtain ⟨f, hf, hfresh⟩ := h.upToDate hqueue htruncated hfailures id a ha
    exact ⟨f, a, hf, hfresh, .refl _ a⟩
  calls id a ha key call hcall husable := by
    have hmem : call ∈ a.seen.calls.values := Table.mem_values_iff.2 ⟨key, hcall⟩
    obtain ⟨g, hg⟩ := hgrounded call.callee husable
    have hid : g.id = call.callee := hkeyed _ _ hg
    have hmet := h.called id a ha call hmem g hg (hid.symm ▸ husable)
    rw [hid] at hmet
    obtain ⟨b, hb⟩ := h.analysed_of_met hqueue htruncated hfailures hmet
    refine ⟨g, b, hg, hb, fun k param taint hparam htaint => ?_, fun slot hslot => ?_⟩
    · refine TaintSet.isSubset_iff.2 fun i hi => h.passed id a ha call hmem _ _ i ?_
      exact ⟨g, hg, hid, husable, Or.inl ⟨k, param, taint, hparam, htaint, rfl, hi⟩⟩
    · refine TaintSet.isSubset_iff.2 fun i hi => h.passed id a ha call hmem _ _ i ?_
      exact ⟨g, hg, hid, husable, Or.inr ⟨hslot, hi⟩⟩
  globals id f a hf ha name hname hwrites := by
    obtain ⟨g, hg, hmentions⟩ := h.analysed id a ha
    obtain rfl : g = f := Option.some.inj (hg.symm.trans hf)
    rw [← hmentions] at hname
    exact TaintSet.isSubset_iff.2 fun i hi => h.written id a ha name hname hwrites i hi

end Ended

/-! ### A pass stays below every consistent solution -/

/-- What a function is analysed with grows with the tables. -/
theorem inputs_within (hfree : p.HidesNothing) (hkeyed : p.program.WellKeyed)
    (hf : p.program.functions.get? id = some f)
    (hc : ∀ id f x, p.program.functions.get? id = some f →
      (c.passed.getD id ∅).contains x = true → f.IsPassed x)
    (hd : ∀ id f x, p.program.functions.get? id = some f →
      (d.passed.getD id ∅).contains x = true → f.IsPassed x)
    (h : c.Below d) : TaintsWithin (p.inputs c f) (p.inputs d f) := by
  have hown : p.program.functions.get? f.id = some f := by
    rw [hkeyed _ _ hf]
    exact hf
  intro x i hi
  rw [has_inputs_iff (fun x => hc f.id f x hown) (hfree id f hf)] at hi
  rw [has_inputs_iff (fun x => hd f.id f x hown) (hfree id f hf)]
  rcases hi with hdeclared | hpassed | ⟨hglobal, hi⟩
  · exact Or.inl hdeclared
  · exact Or.inr (Or.inl (h.passed f.id x i hpassed))
  · exact Or.inr (Or.inr ⟨hglobal, h.globals x i hi⟩)

theorem Consistent.called (h : p.Consistent d) (hkeyed : p.program.WellKeyed)
    (hb : d.analyses.get? id = some b) (hcovers : (p.frame f).CoversFlows a b)
    (hkeys : ∀ key call, a.seen.calls.get? key = some call → ∃ node, key = f.key node)
    {call : CallObservation} (hcall : call ∈ a.seen.calls.values) {g : Function}
    (hg : p.program.functions.get? call.callee = some g) (husable : p.isUsable g.id = true) :
    (∃ r, d.analyses.get? g.id = some r) ∧ ∀ x i, p.Passes call g.id x i → d.Holds g.id x i := by
  obtain ⟨key, hkey⟩ := Table.mem_values_iff.1 hcall
  obtain ⟨node, rfl⟩ := hkeys key call hkey
  -- the solution has an observation of the same call
  obtain ⟨o, ho, hcallee, -⟩ := hcovers (.call node call.callee call.args.length) trivial
    ⟨call, hkey, rfl, rfl⟩
  have hid : g.id = call.callee := hkeyed _ _ hg
  obtain ⟨g', r, hg', hr, hargs, hreceiver⟩ :=
    h.calls id b hb _ o ho (by rw [hcallee, ← hid]; exact husable)
  rw [hcallee] at hg' hr hargs hreceiver
  obtain rfl : g = g' := Option.some.inj (hg.symm.trans hg')
  have hsame : ∀ {o'}, b.seen.calls.get? (f.key node) = some o' → o' = o := fun ho' =>
    Option.some.inj (ho'.symm.trans ho)
  rw [hid]
  refine ⟨⟨r, hr⟩, ?_⟩
  rintro x i ⟨g', hg', -, -, hpasses⟩
  obtain rfl : g = g' := Option.some.inj (hg.symm.trans hg')
  rcases hpasses with ⟨k, param, taint, hparam, htaint, rfl, hi⟩ | ⟨hslot, hi⟩
  · obtain ⟨o', ho', taint', htaint', hi'⟩ := hcovers (.callArg node k i) trivial
      ⟨call, hkey, taint, htaint, hi⟩
    obtain rfl := hsame ho'
    exact TaintSet.isSubset_iff.1 (hargs k param taint' hparam htaint') i hi'
  · obtain ⟨o', ho', hi'⟩ := hcovers (.callReceiver node i) trivial ⟨call, hkey, hi⟩
    obtain rfl := hsame ho'
    exact TaintSet.isSubset_iff.1 (hreceiver x hslot) i hi'

theorem Consistent.written (h : p.Consistent d) (hf : p.program.functions.get? id = some f)
    (hb : d.analyses.get? id = some b) (hcovers : (p.frame f).Covers a b) {name : String}
    (hname : name ∈ f.globalsIn p.program.globals) (hwrites : a.Writes name) {i : Identity}
    (hi : a.exit.Carries (.text name) i) : d.GlobalHolds (.text name) i :=
  TaintSet.isSubset_iff.1 (h.globals id f b hf hb name hname (hcovers.writes hwrites)) i
    (hcovers (.exit (.text name) i) trivial hi)

/-- A function that the second tables have analysed is analysed with the first ones, which hold no more. -/
structure MadeBelow (p : ConcretePass) (c d : ConcreteState) (id : String) (f : Function)
    (a : Analysis) : Prop where
  function : p.program.functions.get? id = some f
  analysed : ∃ b, d.analyses.get? id = some b
  slots : ∀ id f x, p.program.functions.get? id = some f →
    (c.passed.getD id ∅).contains x = true → f.IsPassed x
  below : c.Below d
  analysis : (p.frame f).analyze (.whole p.limits.maxVisits) (p.inputs c f) = .ok a

/-- The tables take in what a function passes on that is analysed with no more than they hold. -/
structure Absorbs (p : ConcretePass) (d : ConcreteState) : Prop where
  entries : ∀ id ∈ p.entries, ∃ b, d.analyses.get? id = some b
  called : ∀ c id f a, p.MadeBelow c d id f a → ∀ call ∈ a.seen.calls.values, ∀ g,
    p.program.functions.get? call.callee = some g → p.isUsable g.id = true →
      (∃ r, d.analyses.get? g.id = some r) ∧ ∀ x i, p.Passes call g.id x i → d.Holds g.id x i
  written : ∀ c id f a, p.MadeBelow c d id f a → ∀ name ∈ f.globalsIn p.program.globals,
    a.Writes name → ∀ i, a.exit.Carries (.text name) i → d.GlobalHolds (.text name) i

/-- A solution finds what an analysis finds that is given no more than the solution holds. -/
theorem Consistent.exists_covers (hd : p.Consistent d) (hkeyed : p.program.WellKeyed)
    (hfree : p.HidesNothing) (h : p.MadeBelow c d id f a) :
    ∃ b, d.analyses.get? id = some b ∧ (p.frame f).Covers a b := by
  obtain ⟨b, hb⟩ := h.analysed
  obtain ⟨f', b', hf', hb', hagree⟩ := hd.fresh id b hb
  obtain rfl : f = f' := Option.some.inj (h.function.symm.trans hf')
  exact ⟨b, hb, fun fact hresult hfact => (hagree fact hresult).2 (Frame.covers_of_within h.analysis hb'
    (inputs_within hfree hkeyed hf' h.slots hd.slots h.below) fact hresult hfact)⟩

theorem Consistent.absorbs (hd : p.Consistent d) (hkeyed : p.program.WellKeyed)
    (hfree : p.HidesNothing) : p.Absorbs d where
  entries := hd.entries
  called c id f a h call hcall g hg husable := by
    obtain ⟨b, hb, hcovers⟩ := hd.exists_covers hkeyed hfree h
    exact hd.called hkeyed hb hcovers.flows (Frame.says_of_analyze h.analysis).2 hcall hg husable
  written c id f a h name hname hwrites i hi := by
    obtain ⟨b, hb, hcovers⟩ := hd.exists_covers hkeyed hfree h
    exact hd.written h.function hb hcovers hname hwrites hi

/-- What was analysed, is to be analysed and is held stays below a solution. -/
structure Under (c d : ConcreteState) : Prop where
  queued : ∀ id ∈ c.queue, ∃ b, d.analyses.get? id = some b
  below : c.Below d

theorem Under.record (h : Under c d) (hd : p.Absorbs d) (hinv : p.Invariant c) (hid : id ∈ c.queue)
    (hf : p.program.functions.get? id = some f) {n : Nat}
    (ha : (p.frame f).analyze (.whole p.limits.maxVisits) (p.inputs c f) = .ok a)
    (hc : p.Recorded { c with queue := c.queue.erase id, runs := c.runs.set id n } id a c') :
    Under c' d := by
  have hmade : p.MadeBelow c d id f a := ⟨hf, h.queued id hid, hinv.slots, h.below, ha⟩
  have hcalled := hd.called c id f a hmade
  have hglobals := Frame.globals_of_analyze ha
  have hanalysed : ∀ other r, c'.analyses.get? other = some r → ∃ b, d.analyses.get? other = some b := by
    intro other r hr
    rcases hc.analyses_iff.1 hr with ⟨rfl, -⟩ | ⟨-, hr⟩
    · exact hmade.analysed
    · exact h.below.analysed other r hr
  refine ⟨fun other ho => ?_, hanalysed, fun other x i hi => ?_, fun x i hi => ?_⟩
  · rcases hc.origin other ho with hin | ⟨r, hr⟩ | ⟨call, hcall, g, hg, rfl, husable⟩
    · exact h.queued other (List.mem_of_mem_erase hin)
    · exact hanalysed other r hr
    · exact (hcalled call hcall g hg husable).1
  · rcases (hc.holds other x i).1 hi with hheld | ⟨call, hcall, hpasses⟩
    · exact h.below.passed other x i hheld
    · have ⟨g, hg, hid, husable, _⟩ := hpasses
      obtain rfl := hid
      exact (hcalled call hcall g hg husable).2 x i hpasses
  · rcases (hc.globalHolds x i).1 hi with hheld | ⟨name, hname, hwrites, rfl, hcarries⟩
    · exact h.below.globals x i hheld
    · rw [hglobals] at hname
      exact hd.written c id f a hmade name hname hwrites i hcarries

theorem Under.pops (h : Under c d) (hd : p.Absorbs d) (hinv : p.Invariant c) (hpops : p.Pops c c') :
    Under c' d := by
  obtain ⟨id, hid, hrun⟩ := hpops
  rcases runOne_cases hrun with ⟨-, rfl⟩ | ⟨f, hf, -, ⟨a, ha, rfl⟩ | ⟨message, rfl⟩⟩
  · exact ⟨fun other ho => h.queued other (List.mem_of_mem_erase ho), h.below.1, h.below.2, h.below.3⟩
  · exact h.record hd hinv hid hf ha (p.recorded_record _ id a)
  · exact ⟨fun other ho => h.queued other (List.mem_of_mem_erase ho), h.below.1, h.below.2, h.below.3⟩

/-- In any order, a pass stays below all tables that take in what it passes on. -/
theorem Absorbs.under_of_pops (hd : p.Absorbs d) (hkeyed : p.program.WellKeyed)
    (h : Relation.ReflTransGen p.Pops (.start p.entries) c) : Under c d := by
  induction h with
  | refl =>
    refine ⟨hd.entries, fun id a ha => ?_, fun id x i hi => ?_, fun x i hi => ?_⟩
    · cases ha
    · cases hi
    · cases hi
  | tail hbefore hstep ih => exact ih.pops hd (invariant_of_pops hkeyed hbefore) hstep

/-- **In any order, a pass stays below every consistent solution.** -/
theorem under_of_pops (hkeyed : p.program.WellKeyed) (hfree : p.HidesNothing) (hd : p.Consistent d)
    (h : Relation.ReflTransGen p.Pops (.start p.entries) c) : Under c d :=
  (hd.absorbs hkeyed hfree).under_of_pops hkeyed h

/-- **A pass that ends finds the least consistent solution.**  Every analysis is then exactly what the
engine makes of the tables in the end, a call has passed its taint on to the function that it calls, and a
global holds what is written to it by functions that mention it.  Unless a parameter or receiver is named like
a global, every other such solution holds no less, and so any other order of functions ends with the same
tables and with analyses that find the same. -/
theorem run_least (program : Program) (rules : Registry) (limits : ResolveLimits)
    (previous : NameMap Summary) (hkeyed : program.WellKeyed) (allowance left : Allowance)
    (res : Resolution)
    (hres : (Resolver.ofProgram program rules limits previous).resolve allowance = .ok (res, left))
    (climits : ConcreteLimits) (allowance' : Allowance) (c : ConcreteState)
    (hrun : (ofResolution program rules res climits).run allowance' = .ok c)
    (htruncated : c.truncated = ∅) (hfailures : c.failures = ∅) :
    (ofResolution program rules res climits).UpToDate c ∧
      (ofResolution program rules res climits).Consistent c ∧
      ((ofResolution program rules res climits).HidesNothing →
        (∀ d, (ofResolution program rules res climits).Consistent d → c.Below d) ∧
        ∀ d, (ofResolution program rules res climits).Completes d → d.truncated = ∅ →
          d.failures = ∅ → c.Below d ∧ d.Below c ∧
            ∀ id f a b, program.functions.get? id = some f → c.analyses.get? id = some a →
              d.analyses.get? id = some b →
                ((ofResolution program rules res climits).frame f).Agree a b) := by
  generalize hp : ofResolution program rules res climits = p at *
  have hprogram : p.program = program := by rw [← hp]; rfl
  have hgrounded : p.Grounded := hp ▸ grounded_ofResolution hkeyed hres climits
  rw [← hprogram] at hkeyed ⊢
  have hsolved : ∀ {d}, p.Completes d → d.truncated = ∅ → d.failures = ∅ →
      p.UpToDate d ∧ p.Consistent d := by
    intro d hd htruncated hfailures
    have hinv := invariant_of_pops hkeyed hd.1
    exact ⟨hinv.upToDate hd.2 htruncated hfailures,
      hinv.consistent hd.2 htruncated hfailures hkeyed hgrounded⟩
  have hcompletes := completes_of_run hkeyed hrun
  obtain ⟨hfresh, hconsistent⟩ := hsolved hcompletes htruncated hfailures
  refine ⟨hfresh, hconsistent, fun hfree => ⟨fun d hd => ?_, fun d hd htruncated' hfailures' => ?_⟩⟩
  · exact (under_of_pops hkeyed hfree hd hcompletes.1).below
  · obtain ⟨hfresh', hconsistent'⟩ := hsolved hd htruncated' hfailures'
    have hbelow := (under_of_pops hkeyed hfree hconsistent' hcompletes.1).below
    have habove := (under_of_pops hkeyed hfree hconsistent hd.1).below
    refine ⟨hbelow, habove, fun id f a b hf ha hb fact hresult => ?_⟩
    obtain ⟨g, hg, ha⟩ := hfresh id a ha
    obtain rfl : g = f := Option.some.inj (hg.symm.trans hf)
    obtain ⟨g', hg', hb⟩ := hfresh' id b hb
    obtain rfl : g = g' := Option.some.inj (hf.symm.trans hg')
    exact ⟨Frame.covers_of_within ha hb
        (inputs_within hfree hkeyed hf hconsistent.slots hconsistent'.slots hbelow) fact hresult,
      Frame.covers_of_within hb ha
        (inputs_within hfree hkeyed hf hconsistent'.slots hconsistent.slots habove) fact hresult⟩

end ConcretePass

/-! ### A global that is written after a call -/

/-- An entry function that passes its parameter, which comes from outside, to `g` and then keeps the result
in `G`; `g` returns its own parameter and what `G` holds. -/
def keeper : Program where
  functions := .ofList [
    ("f", { Function.bare "f" "call" [] [
        ("call", { Node.bare .call ["keep"] with
          callee := .text "g", args := [some "x"], target := .text "r" }),
        ("keep", { Node.bare .assign [] with target := .text "G", operands := ["r"] })] with
      params := [⟨"x", some .networkParameter, false, none⟩]
      entryPoint := true }),
    ("g", .bare "g" "end" ["y"] [("end", { Node.bare .ret [] with operands := ["y", "G"] })])]
  globals := .singleton "G"
  malformed := ∅

theorem keeper_wellKeyed : keeper.WellKeyed := Program.wellKeyed_of_all (by decide +kernel)

theorem hidesNothing_keeper (res : Resolution) (limits : ConcreteLimits) :
    (ConcretePass.ofResolution keeper (.empty ∅) res limits).HidesNothing := by
  have hentries : ∀ entry ∈ keeper.functions.entries, ∀ name ∈ keeper.globals.toList,
      (∀ param ∈ entry.2.params, (Key.text name : Slot) ≠ .text param.name) ∧
        entry.2.receiverSlot? ≠ some (.text name) := by decide +kernel
  intro id f hf name hname hpassed
  obtain ⟨hparams, hreceiver⟩ := hentries (id, f) (Table.mem_entries_iff.2 hf) name hname
  rcases hpassed with ⟨param, hparam, he⟩ | he
  · exact hparams param hparam he
  · exact hreceiver he

/-- The parameter from outside ends up in the global, in this solution and in every other one. -/
theorem run_least_keeper : ∃ res left c,
    (Resolver.ofProgram keeper (.empty ∅) ⟨10, 5⟩ ∅).resolve .unlimited = .ok (res, left) ∧
      (ConcretePass.ofResolution keeper (.empty ∅) res ⟨10, 5⟩).run .unlimited = .ok c ∧
      c.truncated = ∅ ∧ c.failures = ∅ ∧
      (ConcretePass.ofResolution keeper (.empty ∅) res ⟨10, 5⟩).Consistent c ∧
      ∀ d, (ConcretePass.ofResolution keeper (.empty ∅) res ⟨10, 5⟩).Consistent d →
        d.GlobalHolds (.text "G") ⟨.singleton .networkParameter, none, ∅⟩ := by
  obtain ⟨⟨res, left⟩, hres, hruns⟩ := Result.exists_ok_of_any
    (r := (Resolver.ofProgram keeper (.empty ∅) ⟨10, 5⟩ ∅).resolve .unlimited)
    (p := fun result =>
      ((ConcretePass.ofResolution keeper (.empty ∅) result.1 ⟨10, 5⟩).run .unlimited).toOption.any (fun (c : ConcreteState) =>
        decide (c.truncated = ∅ ∧ c.failures = ∅ ∧
          (c.globals.getD (.text "G") ∅).has ⟨.singleton .networkParameter, none, ∅⟩ = true)))
    (by decide +kernel)
  obtain ⟨c, hrun, hc⟩ := Result.exists_ok_of_any hruns
  obtain ⟨htruncated, hfailures, hheld⟩ := of_decide_eq_true hc
  obtain ⟨-, hconsistent, hleast⟩ := ConcretePass.run_least keeper (.empty ∅) ⟨10, 5⟩ ∅ keeper_wellKeyed
    .unlimited left res hres ⟨10, 5⟩ .unlimited c hrun htruncated hfailures
  refine ⟨res, left, c, hres, hrun, htruncated, hfailures, hconsistent, fun d hd => ?_⟩
  exact ((hleast (hidesNothing_keeper res ⟨10, 5⟩)).1 d hd).globals (.text "G") _ hheld

/-! ### A global that is written by a function that is called -/

/-- An entry function that reads a value from outside into `H`, calls `g` and clears `H` again; `g` copies
`H` to `G`. -/
def courier : Program where
  functions := .ofList [
    ("w", .bare "w" "set" [] [
        ("set", { Node.bare .call ["pass"] with api := .text "read", target := .text "H" }),
        ("pass", { Node.bare .call ["clear"] with callee := .text "g" }),
        ("clear", { Node.bare .assign [] with target := .text "H" })]),
    ("g", .bare "g" "keep" [] [
        ("keep", { Node.bare .assign [] with target := .text "G", operands := ["H"] })])]
  globals := .ofList ["G", "H"]
  malformed := ∅

/-- What is read comes from a request. -/
def courierRules : Registry := (Registry.empty ∅).addSource (.text "read") "read" ⟨.networkParameter, none⟩

/-- **The pass forgets what a function writes to a global that it does not mention.**  The taint that `w` ends
with in `G`, where `g` has put it, is not in the global, although every function was analysed. -/
theorem not_kept_courier : ∃ res left c a,
    (Resolver.ofProgram courier courierRules ⟨10, 5⟩ ∅).resolve .unlimited = .ok (res, left) ∧
      (ConcretePass.ofResolution courier courierRules res ⟨10, 5⟩).run .unlimited = .ok c ∧
      c.truncated = ∅ ∧ c.failures = ∅ ∧ c.analyses.get? "w" = some a ∧ "G" ∈ courier.globals ∧ a.Writes "G" ∧
      (a.exit.taintOf (some (.text "G"))).isSubset (c.globals.getD (.text "G") ∅) = false := by
  obtain ⟨⟨res, left⟩, hres, hruns⟩ := Result.exists_ok_of_any
    (r := (Resolver.ofProgram courier courierRules ⟨10, 5⟩ ∅).resolve .unlimited)
    (p := fun result =>
      ((ConcretePass.ofResolution courier courierRules result.1 ⟨10, 5⟩).run .unlimited).toOption.any
        (fun (c : ConcreteState) => decide (c.truncated = ∅ ∧ c.failures = ∅) &&
          (c.analyses.get? "w").any (fun a => decide (
            ((a.exit.defsOf (some (.text "G"))).erase (globalKey "G")).isEmpty = false ∧
              (a.exit.taintOf (some (.text "G"))).isSubset (c.globals.getD (.text "G") ∅) = false))))
    (by decide +kernel)
  obtain ⟨c, hrun, hc⟩ := Result.exists_ok_of_any hruns
  rw [Bool.and_eq_true, decide_eq_true_eq, Option.any_eq_true] at hc
  obtain ⟨⟨htruncated, hfailures⟩, a, ha, hlost⟩ := hc
  obtain ⟨hwrites, hlost⟩ := of_decide_eq_true hlost
  exact ⟨res, left, c, a, hres, hrun, htruncated, hfailures, ha, by decide, Analysis.writes_iff.1 hwrites, hlost⟩

end TaintFlow
