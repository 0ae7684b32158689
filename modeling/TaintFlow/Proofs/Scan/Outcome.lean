import TaintFlow.Proofs.Concrete.Faults
import TaintFlow.Proofs.Scan.Checks
import TaintFlow.Proofs.Scan.Settings

/-!
# How a scan ends

A scan that is not cancelled returns its findings, also when it is strict and takes over the summaries of
earlier scans, with two kinds of exceptions (`Scan.run_ends`).  A function, a component or the pass with
concrete taint may have a budget with too many digits for the message that the budget is used up, and a flow
may have more paths than a real number can count.
-/

namespace TaintFlow

/-! ### Scores -/

namespace Amount

theorem compare?_whole (m n : Int) : (whole m).compare? (whole n) = some (compare m n) := by
  have hexact : ∀ n : Int, Binary.multiple 0 (n < 0) n.natAbs 0 = n := by
    intro n
    have hone : Nat.pow 2 (0 - 0 : Int).toNat = 1 := rfl
    unfold Binary.multiple
    rw [hone, Nat.mul_one]
    by_cases hn : n < 0
    · rw [if_pos (decide_eq_true hn)]
      omega
    · rw [if_neg fun hneg => hn (of_decide_eq_true hneg)]
      omega
  have hmin : min (0 : Int) 0 = 0 := rfl
  unfold compare? exact Binary.ofWhole Binary.compare?
  simp only [hmin, hexact]

theorem isBelow_whole (m n : Int) : (whole m).isBelow (whole n) = decide (m < n) := by
  rw [isBelow, compare?_whole, decide_eq_decide, Option.some_inj, compare_lt_iff_lt]

end Amount

namespace Scorer

/-- What can stop a score: something is counted up to a number that no real number is near to. -/
def Excuse (counts : List Nat) (fault : Fault) : Prop :=
  fault = .overflow .wholeAsReal ∧ ∃ n ∈ counts, Document.realLimit ≤ n

variable {scorer : Scorer} {counts : List Nat}

theorem yields_toReal {n : Nat} (h : n ∈ counts) :
    Result.Yields (Excuse counts) (fun _ => True) (Amount.whole n).toReal := by
  have hreal : (Amount.whole n).toReal = Document.realOfWhole n := rfl
  have hsize : (n : Int).natAbs = n := Int.natAbs_natCast n
  unfold Document.realOfWhole at hreal
  rw [hreal, hsize]
  by_cases hlimit : n < Document.realLimit
  · rw [if_pos hlimit]
    exact True.intro
  · rw [if_neg hlimit]
    exact ⟨rfl, n, h, Nat.not_lt.1 hlimit⟩

/-- The built-in penalty is between zero and one, so none of its powers overflows. -/
theorem yields_power {n : Nat} (h : n ∈ counts) :
    Result.Yields (Excuse counts) (fun _ => True) (power 0.6 (.whole n)) := by
  have hzero : ((0.6 : Float) == 0.0) = false := by decide +kernel
  have hpositive : ¬ (0.6 : Float) < 0.0 := by decide +kernel
  have habove : decide ((0.6 : Float) > 1.0) = false := by decide +kernel
  have hbelow : decide ((0.6 : Float) < -1.0) = false := by decide +kernel
  have hexponent : (Amount.whole n).isBelow (.whole 0) = false := by
    rw [Amount.isBelow_whole, decide_eq_false_iff_not]
    exact Int.not_lt.2 (Int.natCast_nonneg n)
  have hgrow : mayGrow 0.6 (.whole n) = false := by
    rw [mayGrow, habove, hbelow, hexponent]
    rfl
  unfold power
  refine (yields_toReal h).bind fun y _ => ?_
  simp only [hzero, hgrow, hpositive, Bool.and_false, Bool.false_and, decide_false,
    Bool.false_eq_true, if_false]
  exact True.intro

theorem yields_exceeds (n : Nat) (limit : Int) :
    Result.Yields (Excuse counts) (fun _ => True) (exceeds (.whole n) limit) := True.intro

/-- **Scoring a path stops only when something cannot be counted**: its unknown steps, or the other paths. -/
theorem yields_score (h : scorer.unknownPenalty = 0.6) (hops nodes merges others : Nat) :
    Result.Yields (Excuse [hops, others]) (fun _ => True)
      (scorer.score ⟨.whole hops, .whole nodes, .whole merges, .whole others⟩) := by
  unfold score
  refine Result.Yields.bind (motive := fun _ => True) ?_ fun value _ => ?_
  · unfold penalize
    dsimp only
    rw [h]
    split
    · exact (yields_power List.mem_cons_self).bind fun _ _ => True.intro
    · exact True.intro
  refine (yields_exceeds nodes _).bind fun long _ => ?_
  refine (yields_exceeds merges _).bind fun merged _ => ?_
  refine Result.Yields.bind (motive := fun _ => True) ?_ fun _ _ => True.intro
  unfold corroborate
  refine (yields_exceeds others _).bind fun corroborated _ => ?_
  split
  · exact (yields_toReal (List.mem_cons_of_mem _ List.mem_cons_self)).bind fun _ _ => True.intro
  · exact True.intro

end Scorer

/-! ### Paths -/

namespace Flow

/-- There are more paths of the flow, or steps through unknown code on one of them, than can be scored. -/
def Countless (f : Flow) : Prop :=
  Document.realLimit < f.paths.length ∨
    ∃ path ∈ f.paths, Document.realLimit ≤ path.unknownHops.length

/-- What can stop the candidates of some flows. -/
def Excuse (flows : List Flow) (fault : Fault) : Prop :=
  fault = .overflow .wholeAsReal ∧ ∃ f ∈ flows, f.Countless

variable {p : Program} {rules : Registry} {scorer : Scorer} {flows : List Flow}

theorem yields_candidate (h : scorer.unknownPenalty = 0.6) {f : Flow} (hf : f ∈ flows) {path : FlowPath}
    (hpath : path ∈ f.paths) :
    Result.Yields (Excuse flows) (fun _ => True) (f.candidate p rules scorer path) := by
  have hothers : (f.paths.length : Int) - 1 = ((f.paths.length - 1 : Nat) : Int) := by
    have := List.length_pos_of_mem hpath
    omega
  have hcountless : ∀ fault, Scorer.Excuse [path.unknownHops.length, f.paths.length - 1] fault →
      Excuse flows fault := by
    rintro fault ⟨hfault, n, hn, hlimit⟩
    refine ⟨hfault, f, hf, ?_⟩
    rcases List.mem_cons.1 hn with rfl | hn
    · exact Or.inr ⟨path, hpath, hlimit⟩
    · rw [List.mem_singleton.1 hn] at hlimit
      have := List.length_pos_of_mem hpath
      exact Or.inl (by omega)
  unfold candidate
  dsimp only
  rw [hothers]
  exact ((Scorer.yields_score h _ _ _ _).mono hcountless).bind fun _ _ => True.intro

theorem yields_candidates (h : scorer.unknownPenalty = 0.6) :
    Result.Yields (Excuse flows) (fun _ => True) (candidates p rules scorer flows) := by
  have hpaths : ∀ f ∈ flows, Result.Yields (Excuse flows) (fun found => ∀ c ∈ found, True)
      (f.paths.mapM (f.candidate p rules scorer)) := fun f hf =>
    Result.yields_mapM fun path hpath => yields_candidate h hf hpath
  exact (Result.yields_mapM hpaths).bind fun _ _ => True.intro

end Flow

theorem Finding.exists_deduplicate {fs : List Finding}
    (h : ∀ f ∈ fs, ∃ subject, f.subject = .ok subject) : ∃ found, deduplicate fs = .ok found := by
  have hentries : Result.Yields (fun _ => False) (fun entries => ∀ entry ∈ entries, True)
      (fs.mapM (fun f => do return (← f.subject, f))) := by
    refine Result.yields_mapM fun f hf => ?_
    obtain ⟨subject, hsubject⟩ := h f hf
    rw [hsubject]
    exact True.intro
  obtain ⟨entries, hentries, -⟩ := hentries.cases.resolve_right fun ⟨_, _, hfalse⟩ => hfalse
  unfold deduplicate
  rw [hentries, Result.ok_bind]
  exact ⟨_, rfl⟩

/-! ### Scans -/

/-- The summaries of a scan that has come to its end, on which any earlier scans may have been based in the
same way.  All functions that were scanned are among those given. -/
inductive Scan.Earlier (among : Function → Prop) : NameMap Summary → Prop
  | none : Earlier among ∅
  | scan {s : Scan} {overrides : Document} {allowance : Allowance} {previous : NameMap Summary}
      {r : ScanResult} : s.program.WellKeyed → s.program.Named → (∀ f, s.program.Owns f → among f) →
      Earlier among previous → s.run overrides allowance previous = .ok r → Earlier among r.summaries

namespace Scan

variable {s : Scan} {config : Document} {previous : NameMap Summary} {among : Function → Prop}
  {found : Propagation} {settings : Settings}

def Finds (s : Scan) (config : Document) (found : Propagation) (flow : Flow) : Prop :=
  ∃ limits sites, SearchLimits.ofConfig config = .ok limits ∧
    s.program.sinkSites s.rules found.state.analyses = .ok sites ∧
    flow ∈ (Flow.enumerate (flowGraph found.state.analyses) limits found.state.analyses sites).flows

/-- What alone can stop a scan that is not cancelled. -/
inductive Excuse (s : Scan) (config : Document) (previous : NameMap Summary) : Fault → Prop
  /-- The budget of a function has too many digits to be shown. -/
  | budget {maxVisits : Int} {f : Function} :
      limitOf config "max_visits_per_node" 200 = .ok maxVisits → s.program.Owns f →
      f.Unshowable maxVisits → Excuse s config previous (.invalid .unshowable)
  /-- A recursive component does not settle, and the number of its rounds has too many digits. -/
  | rounds {limits : ResolveLimits} {layer : List Names} {c : Names} :
      ResolveLimits.ofConfig config = .ok limits → layer ∈ (CallGraph.ofProgram s.program).layers →
      c ∈ layer → (Resolver.ofProgram s.program s.rules limits previous).Endless c →
      Excuse s config previous (.invalid .unshowable)
  /-- A function has used up its rounds with concrete taint, and their number has too many digits. -/
  | turns {limits : ResolveLimits} {climits : ConcreteLimits} {resolution : Resolution} {left : Allowance}
      {c : ConcreteState} {id : String} :
      ResolveLimits.ofConfig config = .ok limits → ConcreteLimits.ofConfig config = .ok climits →
      (Resolver.ofProgram s.program s.rules limits previous).resolve .unlimited = .ok (resolution, left) →
      (ConcretePass.ofResolution s.program s.rules resolution climits).Completes c → id ∈ c.truncated →
      Nat.pow 10 digitLimit ≤ climits.maxRounds → Excuse s config previous (.invalid .unshowable)
  /-- The paths of a flow cannot be counted in a score. -/
  | count {found : Propagation} {flow : Flow} :
      s.propagate config .unlimited previous = .ok found → s.Finds config found flow → flow.Countless →
      Excuse s config previous (.overflow .wholeAsReal)

/-- What is known before a program is scanned: the functions can be gone through, and one that has the hash
of another has its document too. -/
structure Prepared (s : Scan) (among : Function → Prop) : Prop where
  keyed : s.program.WellKeyed
  named : s.program.Named
  owns : ∀ f, s.program.Owns f → among f
  hashes : ∀ f g, among f → among g → f.contentHash = g.contentHash →
    f.toDocument.normal = g.toDocument.normal

theorem Prepared.trusted (h : s.Prepared among) (limits : ResolveLimits)
    (hprevious : ∀ id s, previous.get? id = some s → s.Backed among id) :
    (Resolver.ofProgram s.program s.rules limits previous).Trusted among :=
  ⟨hprevious, fun id f g hf hg => h.hashes f g (h.owns f ⟨id, hf⟩) hg⟩

theorem Prepared.resolver (h : s.Prepared among) (limits : ResolveLimits) :
    (Resolver.ofProgram s.program s.rules limits previous).Prepared := ⟨h.keyed, h.named, rfl⟩

/-- **What an earlier scan has summarised can be relied on.** -/
theorem Earlier.backed (h : Earlier among previous)
    (hhashes : ∀ f g, among f → among g → f.contentHash = g.contentHash →
      f.toDocument.normal = g.toDocument.normal) :
    ∀ id s, previous.get? id = some s → s.Backed among id := by
  induction h with
  | none => exact fun _ _ h => by cases h
  | @scan s overrides allowance previous r hkeyed hnamed howns _ hrun ih =>
    have hprepared : s.Prepared among := ⟨hkeyed, hnamed, howns, hhashes⟩
    obtain ⟨settings, notices, found, -, hfound, hreport⟩ := exists_propagation hrun
    obtain ⟨-, -, -, -, -, -, -, -, -, -, hsummaries, -⟩ := stages_of_report hreport
    obtain ⟨limits, -, h⟩ := Result.exists_of_bind_eq_ok hfound
    obtain ⟨⟨resolution, left⟩, hres, h⟩ := Result.exists_of_bind_eq_ok h
    obtain ⟨climits, -, h⟩ := Result.exists_of_bind_eq_ok h
    obtain ⟨state, -, h⟩ := Result.exists_of_bind_eq_ok h
    cases h
    have hbacks := ((Resolver.yields_resolve (hprepared.resolver limits)
      (hprepared.trusted limits ih) allowance).of_eq_ok hres).1
    rw [hsummaries]
    exact fun id s hs => (hbacks id s hs).mono fun f hf => howns f ⟨id, hf⟩

/-- What is known when the functions of a scan have been gone through. -/
structure Propagated (s : Scan) (found : Propagation) : Prop where
  program : found.pass.program = s.program
  completes : found.pass.Completes found.state
  grounded : found.pass.Grounded
  rounds : 0 < found.pass.limits.maxRounds

theorem yields_propagate (h : s.Prepared among) (hregular : settings.Regular)
    (hprevious : ∀ id s, previous.get? id = some s → s.Backed among id) :
    Result.Yields (s.Excuse settings.toDocument previous) (fun found => s.Propagated found)
      (s.propagate settings.toDocument .unlimited previous) := by
  obtain ⟨maxVisits, maxRounds, hvisits, hlimits⟩ := ResolveLimits.exists_ofConfig hregular
  obtain ⟨rounds, hpositive, hclimits⟩ := ConcreteLimits.exists_ofConfig hregular hvisits
  have hbudget : ∀ fault, s.program.Excuse maxVisits fault →
      s.Excuse settings.toDocument previous fault := by
    rintro fault ⟨rfl, f, hf, hshown⟩
    exact .budget hvisits hf hshown
  have hresolves := Resolver.yields_resolve (h.resolver ⟨maxVisits, maxRounds⟩)
    (h.trusted ⟨maxVisits, maxRounds⟩ hprevious) .unlimited
  have hstops : ∀ fault,
      (Resolver.ofProgram s.program s.rules ⟨maxVisits, maxRounds⟩ previous).Excuse
        (CallGraph.ofProgram s.program).layers.flatten fault ∨ Allowance.unlimited ≠ .unlimited →
      s.Excuse settings.toDocument previous fault := by
    rintro fault ((hfault | ⟨rfl, c, hc, hendless⟩) | hne)
    · exact hbudget fault hfault
    · obtain ⟨layer, hlayer, hc⟩ := List.mem_flatten.1 hc
      exact .rounds hlimits hlayer hc hendless
    · exact absurd rfl hne
  unfold propagate
  rw [hlimits, hclimits]
  refine (hresolves.mono hstops).and_eq.bind ?_
  rintro ⟨resolution, left⟩ ⟨⟨hbacks, hleft⟩, hres⟩
  obtain rfl : left = .unlimited := hleft rfl
  have hpass : (ConcretePass.ofResolution s.program s.rules resolution ⟨maxVisits, rounds⟩).Prepared :=
    ⟨h.keyed, h.named, hbacks⟩
  have hturns : ∀ fault,
      (ConcretePass.ofResolution s.program s.rules resolution ⟨maxVisits, rounds⟩).Excuse fault →
      s.Excuse settings.toDocument previous fault := by
    rintro fault (hfault | ⟨rfl, hdigits, c, hcompletes, id, hid⟩)
    · exact hbudget fault hfault
    · exact .turns hlimits hclimits hres hcompletes hid hdigits
  refine ((ConcretePass.yields_run hpass).mono hturns).bind fun state hstate => ?_
  exact ⟨rfl, hstate, ConcretePass.grounded_ofResolution h.keyed hres _, hpositive⟩

theorem yields_sinkSites {p : Program} (hnamed : p.Named) (rules : Registry) (analyses : Table Analysis) :
    ∃ sites, p.sinkSites rules analyses = .ok sites := by
  refine ⟨_, if_pos (List.all_eq_true.2 ?_)⟩
  rintro ⟨f, a⟩ hf
  obtain ⟨id, -, hf⟩ := Program.mem_analyzed_iff.1 hf
  refine List.all_eq_true.2 ?_
  rintro ⟨name, n⟩ hn
  have hnode : f.node? name = some n := Table.mem_entries_iff.1 (List.mem_filter.1 hn).1
  exact Document.isName_of_key? ((hnamed id f hf).nodes name n hnode).api

theorem yields_report (h : s.Prepared among) (hregular : settings.Regular) (hlayered : s.rules.Layered)
    (hpropagate : s.propagate settings.toDocument .unlimited previous = .ok found)
    (hfound : s.Propagated found) (notices : List Notice) :
    Result.Yields (s.Excuse settings.toDocument previous) (fun _ => True)
      (s.report settings.toDocument notices found) := by
  obtain ⟨resolution, pass, state⟩ := found
  obtain ⟨hprogram, hdone, hgrounded, hrounds⟩ := hfound
  have hkeyed : pass.program.WellKeyed := hprogram ▸ h.keyed
  obtain ⟨sites, hsites⟩ := yields_sinkSites h.named s.rules state.analyses
  obtain ⟨limits, hlimits⟩ := SearchLimits.exists_ofConfig hregular
  obtain ⟨scorer, hscorer, hpenalty⟩ := Scorer.exists_ofConfig hregular
  have hcountless : ∀ fault, Flow.Excuse
      (Flow.enumerate (flowGraph state.analyses) limits state.analyses sites).flows fault →
        s.Excuse settings.toDocument previous fault := by
    rintro fault ⟨rfl, flow, hflow, hcountless⟩
    exact .count hpropagate ⟨limits, sites, hlimits, hsites, hflow⟩ hcountless
  have hdiscovery := discovery_holds hprogram hdone hlayered hsites (SourceNode.all state.analyses)
  have hanalysis := analysis_holds hkeyed hgrounded hrounds hdone resolution.failures.size
  unfold report
  dsimp only
  rw [hsites, hlimits, hscorer, Result.ok_bind, enforce_of_holds hdiscovery, Result.ok_bind,
    enforce_of_holds hanalysis, Result.ok_bind, Result.ok_bind, Result.ok_bind]
  refine ((Flow.yields_candidates hpenalty).mono hcountless).and_eq.bind fun candidates hcandidates => ?_
  obtain ⟨findings, hfindings⟩ := Finding.exists_deduplicate fun c hc =>
    let ⟨_, _, _, _, hsubject⟩ := Flow.exists_reports_of_mem_candidates hcandidates.2 hsites hc
    ⟨_, hsubject⟩
  rw [hfindings, Result.ok_bind, enforce_of_holds (dedup_holds hfindings)]
  exact True.intro

end Scan

/-! ### A budget that cannot be shown -/

/-- A function that goes through two nodes. -/
def passing : Scan where
  program := {
    functions := .ofList [("f", .bare "f" "first" [] [
      ("first", .bare .nop ["last"]), ("last", .bare .ret [])])]
    globals := ∅
    malformed := ∅ }
  rules := .empty ∅
  strict := true

/-- Settings with a number of visits below zero that can be read and shown, but not the double of it. -/
def overdrawn : List (String × Document) :=
  [("limits", .object [("max_visits_per_node", .whole (1 - Nat.pow 10 digitLimit))])]

end TaintFlow
