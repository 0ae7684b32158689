import TaintFlow.Proofs.Concrete.Spread
import TaintFlow.Proofs.Scan.Flows

/-!
# Findings under one source more

With a source rule more for an api that had no rule, a scan still reports every origin at every argument
that it reported before, if the calls of the api were given nothing or had results that nobody keeps
(`Scan.findings_kept`).  The passes must have lost nothing on their own: both times every function that can
be analysed has a known summary, and no analysis has failed or was cut short.

The classification of a finding is kept as well if the second pass places the argument in the same context and
the path of the finding is one that the second search finds (`Scan.Retraces`).  A label more can change the
context, and with it the verdict (`not_subject_kept_styleUser`).

Where a call of the api is given a label and its result is kept, the label is lost
(`not_findings_kept_legacyUser`).
-/

namespace TaintFlow

namespace Scan

variable {s : Scan} {found found' : Propagation} {config : Document} {rules' : Registry}
  {origin : Origin} {key api : String} {index : Nat}

def under (s : Scan) (rules : Registry) : Scan := { s with rules := rules }

/-- Every function that can be analysed has a known summary, and no analysis has failed or was cut short. -/
structure Propagation.Complete (found : Propagation) : Prop where
  summarised : Resolver.Complete found.pass.program found.resolution
  truncated : found.state.truncated = ∅
  failures : found.state.failures = ∅

instance : Decidable found.Complete :=
  decidable_of_iff (Resolver.Complete found.pass.program found.resolution ∧
    found.state.truncated = ∅ ∧ found.state.failures = ∅)
    ⟨fun ⟨hsummarised, htruncated, hfailures⟩ => ⟨hsummarised, htruncated, hfailures⟩,
      fun h => ⟨h.summarised, h.truncated, h.failures⟩⟩

/-- An origin that was observed at an argument of a sink is observed there by an analysis that finds all
flows. -/
theorem exists_seen_of_coversFlows {frame : Frame} {visits : Amount} {inputs : KeyMap TaintSet}
    {a b : Analysis} (ha : frame.analyze visits inputs = .ok a) (hcovers : frame.CoversFlows a b)
    {seen : SinkObservation} {taint : TaintSet} (hseen : a.seen.sinks.get? key = some seen)
    (htaint : seen.args[index]? = some taint) (horigin : taint.HasOrigin origin) :
    ∃ seen' taint', b.seen.sinks.get? key = some seen' ∧ seen'.args[index]? = some taint' ∧
      taint'.HasOrigin origin := by
  obtain ⟨i, hi, hmem⟩ := horigin
  obtain ⟨rfl, -⟩ := Frame.exists_node_of_sink ha hseen
  obtain ⟨seen', hseen', taint', htaint', hi'⟩ :=
    hcovers (.sinkArg seen.node index i) trivial ⟨seen, hseen, taint, htaint, hi⟩
  exact ⟨seen', taint', hseen', htaint', i, hi', hmem⟩

/-- What was observed at a sink is observed by a pass that finds all flows, with rules for the same sinks. -/
theorem Observes.of_covers {p p' : ConcretePass} {c d : ConcreteState} (hprogram : p.program = s.program)
    (hprogram' : p'.program = s.program) (hc : Relation.ReflTransGen p.Pops (.start p.entries) c)
    (hd : Relation.ReflTransGen p'.Pops (.start p'.entries) d)
    (hsinks : ∀ api, rules'.sink? api = s.rules.sink? api)
    (hcovers : ∀ id f a, s.program.functions.get? id = some f → c.analyses.get? id = some a →
      ∃ b, d.analyses.get? id = some b ∧ (p.frame f).CoversFlows a b)
    (h : s.Observes c.analyses origin key index) :
    (s.under rules').Observes d.analyses origin key index := by
  obtain ⟨id, f, a, seen, n, rule, slot, taint, hf, ha, hseen, hn, hrule, hchecks, harg, htaint,
    horigin⟩ := h
  obtain ⟨b, hb, hflows⟩ := hcovers id f a hf ha
  obtain ⟨g, inputs, hg, hanalyze⟩ := ConcretePass.analysed_of_pops hc ha
  obtain ⟨g', inputs', hg', hanalyze'⟩ := ConcretePass.analysed_of_pops hd hb
  rw [hprogram] at hg
  rw [hprogram'] at hg'
  obtain rfl : f = g := Option.some.inj (hf.symm.trans hg)
  obtain rfl : f = g' := Option.some.inj (hf.symm.trans hg')
  obtain ⟨seen', taint', hseen', htaint', horigin'⟩ :=
    exists_seen_of_coversFlows hanalyze hflows hseen htaint horigin
  obtain ⟨rfl, -⟩ := Frame.exists_node_of_sink hanalyze hseen
  have hnode := Frame.key_injective f (Frame.exists_node_of_sink hanalyze' hseen').1
  exact ⟨id, f, b, seen', n, rule, slot, taint', hf, hb, hseen', hnode ▸ hn, (hsinks n.api).trans hrule,
    hchecks, harg, htaint', horigin'⟩

theorem exists_observed_of_covers {p : ConcretePass} {c d : ConcreteState}
    (hprogram : p.program = s.program) (hc : Relation.ReflTransGen p.Pops (.start p.entries) c)
    (hcovers : ∀ id f a, s.program.functions.get? id = some f → c.analyses.get? id = some a →
      ∃ b, d.analyses.get? id = some b ∧ (p.frame f).CoversFlows a b)
    {site : SinkSite} {taint : TaintSet} (hobserved : Flow.observed? c.analyses site = some taint)
    (horigin : taint.HasOrigin origin) :
    ∃ taint', Flow.observed? d.analyses site = some taint' ∧ taint'.HasOrigin origin := by
  obtain ⟨a, seen, index, ha, hseen, hindex, htaint⟩ := Flow.observed?_eq_some_iff.1 hobserved
  obtain ⟨f, inputs, hf, hanalyze⟩ := ConcretePass.analysed_of_pops hc ha
  obtain ⟨b, hb, hflows⟩ := hcovers site.function f a (hprogram ▸ hf) ha
  obtain ⟨seen', taint', hseen', htaint', horigin'⟩ :=
    exists_seen_of_coversFlows hanalyze hflows hseen htaint horigin
  exact ⟨taint', Flow.observed?_eq_some_iff.2 ⟨b, seen', index, hb, hseen', hindex, htaint'⟩, horigin'⟩

/-- **Every flow that the passes find they still find with one source more.** -/
theorem exists_covers_withSource {rule : SourceRule} {allowance allowance' : Allowance}
    (hp : s.program.Tidy) (hpass : s.rules.LetsPass api) (htaps : s.program.TapsFreely api)
    (hfound : s.propagate config allowance ∅ = .ok found)
    (hfound' : (s.under (s.rules.withSource api rule)).propagate config allowance' ∅ = .ok found')
    {limits : ResolveLimits} (hlimits : ResolveLimits.ofConfig config = .ok limits)
    (hrounds : 2 ≤ limits.maxRounds) (hcomplete : found.Complete) (hcomplete' : found'.Complete)
    (id : String) (f : Function) (a : Analysis) (hf : s.program.functions.get? id = some f)
    (ha : found.state.analyses.get? id = some a) :
    ∃ b, found'.state.analyses.get? id = some b ∧ (found.pass.frame f).CoversFlows a b := by
  have hp' : (s.under (s.rules.withSource api rule)).program.Tidy := hp
  obtain ⟨hprogram, hdone⟩ := pops_of_propagate hp.keyed hfound
  obtain ⟨hprogram', hdone'⟩ := pops_of_propagate hp'.keyed hfound'
  obtain ⟨limits₁, left, climits, hlimits₁, hresolve, hclimits, hpassed, -⟩ := stages_of_propagate hfound
  obtain ⟨limits₂, left', climits', hlimits₂, hresolve', hclimits', hpassed', -⟩ :=
    stages_of_propagate hfound'
  obtain rfl : limits = limits₁ := Except.ok.inj (hlimits.symm.trans hlimits₁)
  obtain rfl : limits = limits₂ := Except.ok.inj (hlimits.symm.trans hlimits₂)
  obtain rfl : climits = climits' := Except.ok.inj (hclimits.symm.trans hclimits')
  have hspreads : found.pass.Spreads (s.rules.withSource api rule) found'.resolution.summaries := by
    rw [hpassed]
    exact ConcretePass.spreads_of_resolve hp hpass htaps hrounds hresolve hresolve'
      (hprogram ▸ hcomplete.summarised) (hprogram' ▸ hcomplete'.summarised)
  have hunder : found'.pass =
      found.pass.under (s.rules.withSource api rule) found'.resolution.summaries := by
    rw [hpassed, hpassed']
    rfl
  have hgrounded : found'.pass.Grounded := by
    rw [hpassed']
    exact ConcretePass.grounded_ofResolution hp.keyed hresolve' climits
  have hinv := ConcretePass.invariant_of_pops (hprogram ▸ hp.keyed) hdone.1
  have hinv' := ConcretePass.invariant_of_pops (hprogram' ▸ hp.keyed) hdone'.1
  have hfresh := hinv.upToDate hdone.2 hcomplete.truncated hcomplete.failures
  have hconsistent := hinv'.consistent hdone'.2 hcomplete'.truncated hcomplete'.failures
    (hprogram' ▸ hp.keyed) hgrounded
  rw [hunder] at hconsistent
  exact hspreads.exists_covers (hprogram ▸ hp) hconsistent hdone.1 hfresh (hprogram ▸ hf) ha

/-! ### Findings whose paths are still there -/

/-- A pass comes to the argument of a finding in the context that the finding names, and some edges lead
from the origin to it along the path of the finding, which the search for paths is not kept from. -/
structure Retraces (s : Scan) (found : Propagation) (limits : SearchLimits) (f : Finding) (origin : Origin)
    (es : List FlowEdge) : Prop where
  placed : ∃ sites, s.program.sinkSites s.rules found.state.analyses = .ok sites ∧ f.sink ∈ sites
  route : (flowGraph found.state.analyses).Route origin f.sink.node f.sink.slot es
  nodes : (FlowPath.along es).nodes = f.path
  distinct : (FlowPath.nodesAlong es).Nodup
  depth : (FlowPath.nodesAlong es).length ≤ limits.maxDepth
  room : (((flowGraph found.state.analyses).searchFor limits origin).run f.sink.node
    f.sink.slot).paths.length < limits.maxPaths
  ended : (((flowGraph found.state.analyses).searchFor limits origin).run f.sink.node
    f.sink.slot).exhausted = false

theorem Retraces.mem_paths {limits : SearchLimits} {f : Finding} {es : List FlowEdge}
    (h : s.Retraces found limits f origin es) :
    .along es ∈ (((flowGraph found.state.analyses).searchFor limits origin).run f.sink.node
      f.sink.slot).paths := by
  obtain ⟨p, hp, q, hgrown, hcarries, hfinish⟩ :=
    PathSearch.exists_grown_of_route limits h.route h.distinct h.depth
  rw [← hfinish]
  exact PathSearch.finish_mem_paths_run h.room h.ended hp hgrown hcarries

/-- **Findings are kept.**  When a source rule is added for an api that had no rule, of which no call is
followed and each call is given nothing or its result is not kept, then a scan from nothing still reports
each origin at each argument of a sink call where it was reported before, unless one of the two scans lost
something on its own.  It reports it under the same classification too, if the second pass comes to the
argument in the same context and the path of the finding is still there. -/
theorem findings_kept (s : Scan) (overrides : Document) (allowance allowance' : Allowance)
    (hp : s.program.Tidy) (hlayered : s.rules.Layered) (api : String) (hpass : s.rules.LetsPass api)
    (htaps : s.program.TapsFreely api) (origin : Document) (context : Option Document)
    (rules' : Registry) (hrules : s.rules.registerSource (.text api) origin context = .ok rules')
    (r r' : ScanResult) (hrun : s.run overrides allowance ∅ = .ok r)
    (hrun' : (s.under rules').run overrides allowance' ∅ = .ok r') :
    ∃ settings notices limits search found found', Settings.merge overrides = .ok (settings, notices) ∧
      ResolveLimits.ofConfig settings.toDocument = .ok limits ∧
      SearchLimits.ofConfig settings.toDocument = .ok search ∧
      s.propagate settings.toDocument allowance ∅ = .ok found ∧
      (s.under rules').propagate settings.toDocument allowance' ∅ = .ok found' ∧
      (2 ≤ limits.maxRounds → found.Complete → found'.Complete →
        (∀ origin key index, (∃ f ∈ r.findings, f.Reports origin key index) →
          ∃ f ∈ r'.findings, f.Reports origin key index) ∧
        ∀ f ∈ r.findings, ∀ origin es, f.origin = .ok origin →
          (s.under rules').Retraces found' search f origin es → ∃ f' ∈ r'.findings, f'.subject = f.subject) := by
  have hlayered' := hlayered.registerSource hrules
  obtain ⟨rule, rfl⟩ := Registry.exists_withSource_of_registerSource hpass hrules
  obtain ⟨settings, notices, found, hmerge, hfound, hreport⟩ := exists_propagation hrun
  obtain ⟨settings', notices', found', hmerge', hfound', hreport'⟩ := exists_propagation hrun'
  obtain ⟨rfl, rfl⟩ : settings = settings' ∧ notices = notices' :=
    Prod.mk.inj (Except.ok.inj (hmerge.symm.trans hmerge'))
  obtain ⟨limits, -, -, hlimits, -⟩ := stages_of_propagate hfound
  obtain ⟨-, search, -, -, -, -, -, -, -, -, -, hsearch⟩ := stages_of_report hreport
  refine ⟨settings, notices, limits, search, found, found', hmerge, hlimits, hsearch, hfound, hfound', ?_⟩
  intro hrounds hcomplete hcomplete'
  have hp' : (s.under (s.rules.withSource api rule)).program.Tidy := hp
  obtain ⟨hprogram, hdone⟩ := pops_of_propagate hp.keyed hfound
  obtain ⟨hprogram', hdone'⟩ := pops_of_propagate hp'.keyed hfound'
  have hcovers := exists_covers_withSource hp hpass htaps hfound hfound' hlimits hrounds hcomplete hcomplete'
  refine ⟨fun origin key index hreported => ?_, fun f hf origin es horigin hretraces => ?_⟩
  · have hobserves := (exists_finding_iff hp.keyed hlayered hfound hreport).1 hreported
    exact (exists_finding_iff hp'.keyed hlayered' hfound' hreport').2
      (hobserves.of_covers hprogram hprogram' hdone.1 hdone'.1 (fun _ => rfl) hcovers)
  · obtain ⟨_, origin', index, -, hexplains⟩ := exists_explains_of_mem_findings hreport hf
    obtain rfl : origin = origin' := Except.ok.inj (horigin.symm.trans hexplains.origin_eq)
    obtain ⟨taint, hobserved, hmem⟩ := hexplains.observed
    obtain ⟨taint', hobserved', hmem'⟩ :=
      exists_observed_of_covers hprogram hdone.1 hcovers hobserved hmem
    obtain ⟨sites', hsites', hplaced⟩ := hretraces.placed
    obtain ⟨f', hf', index', l, hindex', hl, hsubject⟩ :=
      exists_finding_of_path hreport' hsearch hsites' hplaced hobserved' hmem' hretraces.mem_paths
    refine ⟨f', hf', ?_⟩
    obtain rfl : index = index' := Atom.whole.inj (hexplains.argument.symm.trans hindex')
    rw [hsubject, hexplains.subject, hexplains.judged l hl, hretraces.nodes]
    -- a verdict does not look at the source rules
    rfl

end Scan

/-! ### Runs with one source more -/

/-- The passes of a scan from nothing have rounds enough and lose nothing on their own. -/
def Scan.LosesNothing (s : Scan) (overrides : Document) : Prop :=
  ∃ settings notices limits found, Settings.merge overrides = .ok (settings, notices) ∧
    ResolveLimits.ofConfig settings.toDocument = .ok limits ∧ 2 ≤ limits.maxRounds ∧
    s.propagate settings.toDocument .unlimited ∅ = .ok found ∧ found.Complete

theorem Scan.losesNothing_of_any {s : Scan} {overrides : Document}
    (h : (Settings.merge overrides).toOption.any (fun merged =>
      (ResolveLimits.ofConfig merged.1.toDocument).toOption.any (fun limits => 2 ≤ limits.maxRounds) &&
      (s.propagate merged.1.toDocument .unlimited ∅).toOption.any
        (fun (found : Scan.Propagation) => decide found.Complete)) = true) : s.LosesNothing overrides := by
  obtain ⟨⟨settings, notices⟩, hmerge, h⟩ := Result.exists_ok_of_any h
  obtain ⟨hlimits, hfound⟩ := Bool.and_eq_true_iff.1 h
  obtain ⟨limits, hlimits, hrounds⟩ := Result.exists_ok_of_any hlimits
  obtain ⟨found, hfound, hcomplete⟩ := Result.exists_ok_of_any hfound
  exact ⟨settings, notices, limits, found, hmerge, hlimits, of_decide_eq_true hrounds, hfound,
    of_decide_eq_true hcomplete⟩

theorem Scan.LosesNothing.complete {s : Scan} {overrides : Document} {settings : Settings}
    {notices : List Notice} {limits : ResolveLimits} {found : Scan.Propagation} (h : s.LosesNothing overrides)
    (hmerge : Settings.merge overrides = .ok (settings, notices))
    (hlimits : ResolveLimits.ofConfig settings.toDocument = .ok limits)
    (hfound : s.propagate settings.toDocument .unlimited ∅ = .ok found) :
    2 ≤ limits.maxRounds ∧ found.Complete := by
  obtain ⟨settings', notices', limits', found', hmerge', hlimits', hrounds, hfound', hcomplete⟩ := h
  obtain ⟨rfl, -⟩ : settings = settings' ∧ notices = notices' :=
    Prod.mk.inj (Except.ok.inj (hmerge.symm.trans hmerge'))
  obtain rfl : limits = limits' := Except.ok.inj (hlimits.symm.trans hlimits')
  obtain rfl : found = found' := Except.ok.inj (hfound.symm.trans hfound')
  exact ⟨hrounds, hcomplete⟩

def Program.single (f : Function) : Program where
  functions := .ofList [(f.id, f)]
  globals := ∅
  malformed := ∅

namespace Program

variable {f : Function}

theorem eq_of_single {id : String} {g : Function} (hg : (single f).functions.get? id = some g) :
    id = f.id ∧ g = f := by
  have hg : (id, g) ∈ [(f.id, f)] := Table.mem_entries_iff.2 hg
  exact Prod.mk.inj (List.mem_singleton.1 hg)

theorem of_single (P : Node → Prop) (h : ∀ entry ∈ f.nodes.entries, P entry.2) {id node : String}
    {g : Function} {n : Node} (hg : (single f).functions.get? id = some g) (hn : g.node? node = some n) :
    P n := by
  obtain ⟨-, rfl⟩ := eq_of_single hg
  exact h _ (Table.mem_entries_iff.2 hn)

theorem not_callsInto {n : Node} (h : n.callee = .null) (known : Names) (callee : String) :
    ¬ n.CallsInto known callee := by
  rintro ⟨hcallee, -⟩
  cases h.symm.trans hcallee

/-- A function that calls no other one keeps everything apart. -/
theorem tidy_single (h : ∀ entry ∈ f.nodes.entries, entry.2.callee = .null) : (single f).Tidy where
  keyed id g hg := by
    obtain ⟨rfl, rfl⟩ := eq_of_single hg
    rfl
  read _ _ _ := rfl
  visible _ _ _ name hname := absurd hname (OrderedSet.not_mem_empty name)
  apart _ _ _ _ _ _ name hname := absurd hname (OrderedSet.not_mem_empty name)
  results _ _ hg _ _ hn _ callee hcalls :=
    absurd hcalls (not_callsInto (of_single (fun n => n.callee = .null) h hg hn) _ callee)

theorem tapsFreely_single {api : String} (h : ∀ entry ∈ f.nodes.entries, entry.2.callee = .null)
    (hapi : ∀ entry ∈ f.nodes.entries, entry.2.api = .text api →
      entry.2.targetSlot? = none ∨ entry.2.passedSlots = []) : (single f).TapsFreely api := by
  intro id g hg node n hn _ hcalled
  have hfree := of_single (fun n => n.api = .text api → n.targetSlot? = none ∨ n.passedSlots = []) hapi hg hn
  exact ⟨not_callsInto (of_single (fun n => n.callee = .null) h hg hn) _, hfree hcalled⟩

end Program

/-- `y = legacy(given)` -/
def legacyCall (given : List (Option String)) : Node :=
  { Node.bare .call ["use"] with api := .text "legacy", args := given, target := .text "y" }

/-- `exec(passed)` -/
def interpreterCall (passed : List (Option String)) : Node :=
  { Node.bare .call [] with api := .text "exec", args := passed }

/-- A function whose parameter `x` comes from outside. -/
def requestHandler (entry : String) (nodes : List (String × Node)) : Function :=
  { Function.bare "f" entry [] nodes with params := [⟨"x", some .networkParameter, false, none⟩] }

/-- A function that calls an old api and then a command interpreter. -/
def legacyUser (given passed : List (Option String)) : Scan where
  program := .single (requestHandler "get"
    [("get", legacyCall given), ("use", interpreterCall passed)])
  rules := interpreterRules
  strict := true

def legacyRules : Registry := interpreterRules.withSource "legacy" ⟨.fileContent, none⟩

theorem registerSource_legacy : interpreterRules.registerSource (.text "legacy") (.text "file-content")
    none = .ok legacyRules := by
  have horigin : Origin.ofDocument (.text "file-content") = .ok .fileContent :=
    Result.eq_ok_of_toOption (by decide +kernel)
  unfold Registry.registerSource
  rw [horigin]
  rfl

theorem letsPass_legacy : interpreterRules.LetsPass "legacy" := ⟨rfl, rfl⟩

theorem callee_legacyUser (given passed : List (Option String)) :
    ∀ entry ∈ [("get", legacyCall given), ("use", interpreterCall passed)], entry.2.callee = .null := by
  simp [legacyCall, interpreterCall, Node.bare]

theorem tapsFreely_legacyUser (passed : List (Option String)) :
    (legacyUser [none] passed).program.TapsFreely "legacy" := by
  refine Program.tapsFreely_single (callee_legacyUser _ _) fun entry hentry hapi => Or.inr ?_
  rcases List.mem_pair.1 hentry with rfl | rfl
  · rfl
  · exact absurd (Document.text.inj hapi) (by decide)

/-- The parameter goes straight into the call. -/
def straight : FlowEdge := ⟨"f::param:0", "f::use", .plain, some (.text "x"), none⟩

def firstArgument : SinkSite :=
  ⟨"f::use", "f", .text "exec", .whole 0, ⟨.rawCommandInterpreter, []⟩, some (.text "x"), .whole 0, .null⟩

/-- A pass comes to the argument, and the search may take the parameter straight to it. -/
def Scan.LetsStraight (s : Scan) (found : Scan.Propagation) (search : SearchLimits) : Prop :=
  (s.program.sinkSites s.rules found.state.analyses).toOption.any (fun sites => firstArgument ∈ sites) = true ∧
    straight ∈ (Scan.flowGraph found.state.analyses).edges ∧
    (Scan.flowGraph found.state.analyses).carries .networkParameter straight.src = true ∧
    2 ≤ search.maxDepth ∧
    (((Scan.flowGraph found.state.analyses).searchFor search .networkParameter).run "f::use"
      (some (.text "x"))).paths.length < search.maxPaths ∧
    (((Scan.flowGraph found.state.analyses).searchFor search .networkParameter).run "f::use"
      (some (.text "x"))).exhausted = false

instance {s : Scan} {found : Scan.Propagation} {search : SearchLimits} :
    Decidable (s.LetsStraight found search) :=
  inferInstanceAs (Decidable (_ ∧ _))

theorem Scan.LetsStraight.retraces {s : Scan} {found : Scan.Propagation} {search : SearchLimits} {f : Finding}
    (h : s.LetsStraight found search) (hsink : f.sink = firstArgument)
    (hpath : f.path = [.text "f::param:0", .text "f::use"]) :
    s.Retraces found search f .networkParameter [straight] := by
  obtain ⟨hsites, hedge, hcarries, hdepth, hroom, hended⟩ := h
  obtain ⟨sites, hsites, hmem⟩ := Result.exists_ok_of_any hsites
  exact {
    placed := ⟨sites, hsites, hsink ▸ of_decide_eq_true hmem⟩
    route := {
      recorded := fun e he => List.mem_singleton.1 he ▸ hedge
      joined := .singleton _
      between := fun e he => absurd he List.not_mem_nil
      reads := ⟨straight, rfl, rfl, hsink ▸ rfl, hsink ▸ rfl⟩
      matched := ⟨[], .other (by decide) (by decide) .nil⟩
      starts := ⟨straight, rfl, hcarries⟩ }
    nodes := hpath ▸ rfl
    distinct := by decide
    depth := hdepth
    room := hsink ▸ hroom
    ended := hsink ▸ hended }

/-- **A file more, and nothing less.**  The old api is given a constant, so with a rule for it the scan still
reports the parameter, under the same classification. -/
theorem findings_kept_legacyUser : ∃ r r',
    (legacyUser [none] [some "x", some "y"]).run (.object []) .unlimited ∅ = .ok r ∧
      ((legacyUser [none] [some "x", some "y"]).under legacyRules).run (.object []) .unlimited ∅ = .ok r' ∧
      (∃ f ∈ r.findings, f.Reports .networkParameter "f::use" 0) ∧
      (∃ f ∈ r'.findings, f.Reports .networkParameter "f::use" 0) ∧
      ∃ f ∈ r.findings, f.subject = .ok ⟨.networkParameter, "f::use", .whole 0, .insufficient⟩ ∧
        ∃ f' ∈ r'.findings, f'.subject = f.subject := by
  obtain ⟨r, hrun, hr⟩ := Result.exists_ok_of_any
    (r := (legacyUser [none] [some "x", some "y"]).run (.object []) .unlimited ∅)
    (p := fun r => r.findings.any (fun f => decide (
      f.subject.toOption = some ⟨.networkParameter, "f::use", .whole 0, .insufficient⟩ ∧
      f.origin.toOption = some .networkParameter ∧ f.sink = firstArgument ∧
      f.path = [.text "f::param:0", .text "f::use"])))
    (by decide +kernel)
  obtain ⟨r', hrun', -⟩ := Result.exists_ok_of_any
    (r := ((legacyUser [none] [some "x", some "y"]).under legacyRules).run (.object []) .unlimited ∅)
    (p := fun _ => true) (by decide +kernel)
  obtain ⟨f, hf, hfacts⟩ := List.any_eq_true.1 hr
  obtain ⟨hsubject, horigin, hsink, hpath⟩ := of_decide_eq_true hfacts
  have hsubject := Result.eq_ok_of_toOption hsubject
  have hreported : ∃ f ∈ r.findings, f.Reports .networkParameter "f::use" 0 :=
    ⟨f, hf, .insufficient, hsubject⟩
  have hfirst : (legacyUser [none] [some "x", some "y"]).LosesNothing (.object []) :=
    Scan.losesNothing_of_any (by decide +kernel)
  have hsecond : ((legacyUser [none] [some "x", some "y"]).under legacyRules).LosesNothing (.object []) :=
    Scan.losesNothing_of_any (by decide +kernel)
  have hstraight : (Settings.merge (.object [])).toOption.any (fun merged =>
      (SearchLimits.ofConfig merged.1.toDocument).toOption.any (fun search =>
        (((legacyUser [none] [some "x", some "y"]).under legacyRules).propagate merged.1.toDocument
          .unlimited ∅).toOption.any (fun (found : Scan.Propagation) =>
            decide (((legacyUser [none] [some "x", some "y"]).under legacyRules).LetsStraight found search)))) =
      true := by
    decide +kernel
  obtain ⟨settings, notices, limits, search, found, found', hmerge, hlimits, hsearch, hfound, hfound', hkept⟩ :=
    Scan.findings_kept (legacyUser [none] [some "x", some "y"]) _ _ _
      (Program.tidy_single (callee_legacyUser _ _)) layered_exposed "legacy" letsPass_legacy
      (tapsFreely_legacyUser _) _ _ _ registerSource_legacy r r' hrun hrun'
  obtain ⟨hrounds, hcomplete⟩ := hfirst.complete hmerge hlimits hfound
  obtain ⟨-, hcomplete'⟩ := hsecond.complete hmerge hlimits hfound'
  obtain ⟨hreports, hsubjects⟩ := hkept hrounds hcomplete hcomplete'
  have hstraight := of_decide_eq_true
    (Result.apply_of_any (Result.apply_of_any (Result.apply_of_any hstraight hmerge) hsearch) hfound')
  exact ⟨r, r', hrun, hrun', hreported, hreports _ _ _ hreported, f, hf, hsubject,
    hsubjects f hf _ _ (Result.eq_ok_of_toOption horigin) (hstraight.retraces hsink hpath)⟩

/-- **A finding that is lost.**  The old api is given the parameter and hands it on as far as anybody knows,
so the parameter is reported.  With a rule for the api it is not. -/
theorem not_findings_kept_legacyUser : interpreterRules.LetsPass "legacy" ∧
    interpreterRules.registerSource (.text "legacy") (.text "file-content") none = .ok legacyRules ∧
    ∃ r r', (legacyUser [some "x"] [some "y"]).run (.object []) .unlimited ∅ = .ok r ∧
      ((legacyUser [some "x"] [some "y"]).under legacyRules).run (.object []) .unlimited ∅ = .ok r' ∧
      (∃ f ∈ r.findings, f.Reports .networkParameter "f::use" 0) ∧
      ∀ f ∈ r'.findings, ¬ f.Reports .networkParameter "f::use" 0 := by
  refine ⟨letsPass_legacy, registerSource_legacy, ?_⟩
  obtain ⟨r, hrun, hr⟩ := Result.exists_ok_of_any
    (r := (legacyUser [some "x"] [some "y"]).run (.object []) .unlimited ∅)
    (p := fun r => r.findings.any (fun f =>
      f.subject.toOption = some ⟨.networkParameter, "f::use", .whole 0, .insufficient⟩))
    (by decide +kernel)
  obtain ⟨r', hrun', hr'⟩ := Result.exists_ok_of_any
    (r := ((legacyUser [some "x"] [some "y"]).under legacyRules).run (.object []) .unlimited ∅)
    (p := fun r => r.findings.all (fun f =>
      f.subject.toOption.any (fun subject => subject.origin = .fileContent))) (by decide +kernel)
  refine ⟨r, r', hrun, hrun', ?_, fun f hf => ?_⟩
  · obtain ⟨f, hf, hsubject⟩ := List.any_eq_true.1 hr
    exact ⟨f, hf, .insufficient, Result.eq_ok_of_toOption (of_decide_eq_true hsubject)⟩
  · rintro ⟨classification, hsubject⟩
    have horigin := Result.apply_of_any (List.all_eq_true.1 hr' f hf) hsubject
    cases of_decide_eq_true horigin

/-! ### A classification that changes -/

/-- `target = quote(x)` -/
def quoteCall (x target : String) (succ : List String) : Node :=
  { Node.bare .call succ with api := .text "quote", args := [some x], target := .text target }

/-- A function that quotes its parameter and what the old api gives it, and builds a text for the command
interpreter in which the first of the two stands in a style. -/
def styleBuilder : Function := requestHandler "quote" [
  ("quote", quoteCall "x" "color" ["get"]),
  ("get", { legacyCall [none] with succ := ["clean"] }),
  ("clean", quoteCall "y" "name" ["build"]),
  ("build", { Node.bare .assign ["use"] with
    target := .text "z", operands := ["color", "name"], embeds := .ofList [("color", [.cssValue])] }),
  ("use", interpreterCall [some "z"])]

/-- The quoting is made for the command interpreter, not for styles. -/
def styleUser : Scan where
  program := .single styleBuilder
  rules := interpreterRules.addSanitizer (.text "quote") "quote"
    ⟨.singleton .rawCommandInterpreter, .whitelist⟩
  strict := true

/-- **A finding that is judged otherwise.**  Nothing is lost by a rule that makes the old api read from the
network.  But now a tainted text stands outside the style, so that the style does not count any more, and what
was insufficient is sufficient. -/
theorem not_subject_kept_styleUser : styleUser.program.Tidy ∧ styleUser.rules.Layered ∧
    styleUser.rules.LetsPass "legacy" ∧ styleUser.program.TapsFreely "legacy" ∧
    ∃ rules', styleUser.rules.registerSource (.text "legacy") (.text "network-parameter") none = .ok rules' ∧
      styleUser.LosesNothing (.object []) ∧ (styleUser.under rules').LosesNothing (.object []) ∧
      ∃ r r', styleUser.run (.object []) .unlimited ∅ = .ok r ∧
        (styleUser.under rules').run (.object []) .unlimited ∅ = .ok r' ∧
        (∃ f ∈ r.findings, f.subject = .ok ⟨.networkParameter, "f::use", .whole 0, .insufficient⟩) ∧
        (∃ f ∈ r'.findings, f.subject = .ok ⟨.networkParameter, "f::use", .whole 0, .sufficient⟩) ∧
        ∀ f ∈ r'.findings, f.subject ≠ .ok ⟨.networkParameter, "f::use", .whole 0, .insufficient⟩ := by
  have hpass : styleUser.rules.LetsPass "legacy" := ⟨rfl, rfl⟩
  have horigin : Origin.ofDocument (.text "network-parameter") = .ok .networkParameter :=
    Result.eq_ok_of_toOption (by decide +kernel)
  have hcallee : ∀ entry ∈ styleBuilder.nodes.entries, entry.2.callee = .null := by decide +kernel
  refine ⟨Program.tidy_single hcallee, layered_exposed.of_sinks_eq rfl, hpass,
    Program.tapsFreely_single hcallee (by decide +kernel), _, by rw [Registry.registerSource, horigin]; rfl,
    Scan.losesNothing_of_any (by decide +kernel), Scan.losesNothing_of_any (by decide +kernel), ?_⟩
  obtain ⟨r, hrun, hr⟩ := Result.exists_ok_of_any (r := styleUser.run (.object []) .unlimited ∅)
    (p := fun r => r.findings.any (fun f =>
      f.subject.toOption = some ⟨.networkParameter, "f::use", .whole 0, .insufficient⟩))
    (by decide +kernel)
  obtain ⟨r', hrun', hr'⟩ := Result.exists_ok_of_any
    (r := (styleUser.under (styleUser.rules.withSource "legacy" ⟨.networkParameter, none⟩)).run (.object [])
      .unlimited ∅)
    (p := fun r => r.findings.any (fun f =>
        f.subject.toOption = some ⟨.networkParameter, "f::use", .whole 0, .sufficient⟩) &&
      r.findings.all (fun f =>
        f.subject.toOption ≠ some ⟨.networkParameter, "f::use", .whole 0, .insufficient⟩))
    (by decide +kernel)
  obtain ⟨hkept, hchanged⟩ := Bool.and_eq_true_iff.1 hr'
  obtain ⟨f, hf, hsubject⟩ := List.any_eq_true.1 hr
  obtain ⟨f', hf', hsubject'⟩ := List.any_eq_true.1 hkept
  refine ⟨r, r', hrun, hrun', ⟨f, hf, Result.eq_ok_of_toOption (of_decide_eq_true hsubject)⟩,
    ⟨f', hf', Result.eq_ok_of_toOption (of_decide_eq_true hsubject')⟩, fun g hg he => ?_⟩
  have hother := of_decide_eq_true (List.all_eq_true.1 hchanged g hg)
  rw [he] at hother
  exact hother rfl

end TaintFlow
