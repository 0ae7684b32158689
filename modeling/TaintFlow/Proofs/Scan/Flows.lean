import TaintFlow.Proofs.Concrete.Coverage
import TaintFlow.Proofs.Path.Search
import TaintFlow.Proofs.Scan.Dedup
import TaintFlow.Proofs.Scan.Sites
import TaintFlow.Scan

/-!
# The findings are the observed flows

The taint of a sink argument is split by origins (`exists_labelsByOrigin_iff`), each origin has at least
one path whatever the limits of the search are (`paths_ne_nil`), and each path becomes a candidate.  So the
findings are about just what the concrete pass has observed (`findings_exact`), and they stand for as many
paths as there were.
-/

namespace TaintFlow

def TaintSet.HasOrigin (t : TaintSet) (origin : Origin) : Prop :=
  ∃ i, t.has i = true ∧ origin ∈ i.origins

/-- The finding is about an origin that reaches an argument of a sink call. -/
def Finding.Reports (f : Finding) (origin : Origin) (node : String) (index : Nat) : Prop :=
  ∃ classification, f.subject = .ok ⟨origin, node, .whole index, classification⟩

/-- The last analysis of a function has observed an origin in a checked argument of a sink call, which is
not a literal. -/
def Scan.Observes (s : Scan) (analyses : Table Analysis) (origin : Origin) (key : String)
    (index : Nat) : Prop :=
  ∃ id f a seen n rule slot taint, s.program.functions.get? id = some f ∧
    analyses.get? id = some a ∧ a.seen.sinks.get? key = some seen ∧ f.node? seen.node = some n ∧
    s.rules.sink? n.api = some rule ∧ rule.checks index = true ∧ n.args[index]? = some (some slot) ∧
    seen.args[index]? = some taint ∧ taint.HasOrigin origin

namespace Flow

/-! ### Origins apart -/

variable {taint : TaintSet} {origin : Origin} {l : Label}

theorem mem_singles {entry : Origin × Label} (h : entry ∈ singles taint) :
    entry.2.origins = .singleton entry.1 := by
  obtain ⟨_, -, h⟩ := List.mem_flatMap.1 h
  obtain ⟨_, -, rfl⟩ := List.mem_map.1 h
  rfl

theorem exists_mem_singles_iff : (∃ l, (origin, l) ∈ singles taint) ↔ taint.HasOrigin origin := by
  have hsorted : ∀ l, l ∈ taint.concrete.sorted ↔ l ∈ taint.concrete.labels := fun l =>
    (List.mergeSort_perm _ _).mem_iff
  constructor
  · rintro ⟨l, hl⟩
    obtain ⟨m, hm, hl⟩ := List.mem_flatMap.1 hl
    obtain ⟨origin', horigin, he⟩ := List.mem_map.1 hl
    cases he
    obtain ⟨i, hi, -, he⟩ :=
      TaintSet.has_concrete_iff.1 (TaintSet.has_iff.2 ⟨m, (hsorted m).1 hm, rfl⟩)
    refine ⟨i, hi, ?_⟩
    have horigins : m.identity.origins = i.origins := by rw [he]
    rw [← horigins]
    exact horigin
  · rintro ⟨i, hi, horigin⟩
    have hconcrete : taint.concrete.has { i with symbols := ∅ } = true :=
      TaintSet.has_concrete_iff.2 ⟨i, hi, OrderedSet.isEmpty_eq_false_iff.2 ⟨origin, horigin⟩, rfl⟩
    obtain ⟨m, hm, he⟩ := TaintSet.has_iff.1 hconcrete
    refine ⟨_, List.mem_flatMap.2 ⟨m, (hsorted m).2 hm, List.mem_map.2 ⟨origin, ?_, rfl⟩⟩⟩
    have horigins : m.identity.origins = i.origins := by rw [he]
    rw [← horigins] at horigin
    exact horigin

theorem get?_keepShorter {kept : OrderedMap Origin Label} {entry : Origin × Label}
    (h : (keepShorter kept entry).get? origin = some l) :
    kept.get? origin = some l ∨ (origin, l) = entry := by
  have hset : (kept.set entry.1 entry.2).get? origin = some l →
      kept.get? origin = some l ∨ (origin, l) = entry := by
    intro h
    rw [OrderedMap.get?_set] at h
    split at h
    · next he =>
      cases h
      exact Or.inr (Prod.ext he rfl)
    · exact Or.inl h
  unfold keepShorter at h
  split at h
  · exact hset h
  · split at h
    · exact hset h
    · exact Or.inl h

theorem exists_get?_keepShorter_iff {kept : OrderedMap Origin Label} {entry : Origin × Label} :
    (∃ l, (keepShorter kept entry).get? origin = some l) ↔
      (∃ l, kept.get? origin = some l) ∨ origin = entry.1 := by
  have hset : (∃ l, (kept.set entry.1 entry.2).get? origin = some l) ↔
      (∃ l, kept.get? origin = some l) ∨ origin = entry.1 := by
    simp only [OrderedMap.get?_set]
    by_cases he : origin = entry.1 <;> simp [he]
  unfold keepShorter
  split
  · exact hset
  · next current hcurrent =>
    split
    · exact hset
    · refine (or_iff_left_of_imp ?_).symm
      rintro rfl
      exact ⟨current, hcurrent⟩

theorem labelsByOrigin_spec (entries : List (Origin × Label)) (kept : OrderedMap Origin Label) :
    (∀ origin l, (entries.foldl keepShorter kept).get? origin = some l →
        kept.get? origin = some l ∨ (origin, l) ∈ entries) ∧
      ∀ origin, (∃ l, (entries.foldl keepShorter kept).get? origin = some l) ↔
        (∃ l, kept.get? origin = some l) ∨ ∃ l, (origin, l) ∈ entries := by
  induction entries generalizing kept with
  | nil => exact ⟨fun origin l h => Or.inl h, fun origin => by simp⟩
  | cons entry rest ih =>
    obtain ⟨hfound, hexists⟩ := ih (keepShorter kept entry)
    rw [List.foldl_cons]
    refine ⟨fun origin l h => ?_, fun origin => ?_⟩
    · rcases hfound origin l h with h | h
      · refine (get?_keepShorter h).imp_right fun he => ?_
        rw [he]
        exact List.mem_cons_self
      · exact Or.inr (List.mem_cons_of_mem entry h)
    · rw [hexists, exists_get?_keepShorter_iff, or_assoc]
      refine or_congr_right ?_
      simp only [List.mem_cons, exists_or]
      refine or_congr_left ⟨fun he => ⟨entry.2, Prod.ext he rfl⟩, ?_⟩
      rintro ⟨_, rfl⟩
      rfl

theorem origins_of_labelsByOrigin (h : (labelsByOrigin taint).get? origin = some l) :
    l.origins = .singleton origin := by
  rcases (labelsByOrigin_spec (singles taint) ∅).1 origin l h with h | h
  · cases h
  · exact mem_singles h

theorem exists_labelsByOrigin_iff :
    (∃ l, (labelsByOrigin taint).get? origin = some l) ↔ taint.HasOrigin origin := by
  rw [← exists_mem_singles_iff]
  refine ((labelsByOrigin_spec (singles taint) ∅).2 origin).trans (or_iff_right ?_)
  rintro ⟨_, h⟩
  cases h

/-! ### Flows -/

variable {g : FlowGraph} {limits : SearchLimits} {analyses : Table Analysis}
  {distances : OrderedMap Origin (NameMap Nat)} {site : SinkSite} {sites : List SinkSite}

theorem observed?_eq_some_iff : observed? analyses site = some taint ↔ ∃ a seen index,
    analyses.get? site.function = some a ∧ a.seen.sinks.get? site.node = some seen ∧
      site.argIndex = .whole index ∧ seen.args[index.toNat]? = some taint := by
  unfold observed?
  simp only [Option.bind_eq_bind, Option.bind_eq_some_iff]
  refine exists_congr fun a => ?_
  rw [← exists_and_left]
  constructor
  · rintro ⟨seen, ha, hseen, h⟩
    split at h
    · next index hindex => exact ⟨seen, index, ha, hseen, hindex, h⟩
    · cases h
  · rintro ⟨seen, index, ha, hseen, hindex, htaint⟩
    refine ⟨seen, ha, hseen, ?_⟩
    rw [hindex]
    exact htaint

def along (g : FlowGraph) (distances : OrderedMap Origin (NameMap Nat)) (limits : SearchLimits)
    (site : SinkSite) (entry : Origin × Label) : Flow :=
  let search : PathSearch := ⟨g, limits, entry.1, distances.getD entry.1 ∅⟩
  let found := search.run site.node site.slot
  ⟨site, entry.2, if found.paths.isEmpty then [.ofProvenance entry.2 site.node] else found.paths⟩

/-- **Every flow has a path**, whatever comes of the search. -/
theorem paths_ne_nil (g : FlowGraph) (distances : OrderedMap Origin (NameMap Nat))
    (limits : SearchLimits) (site : SinkSite) (entry : Origin × Label) :
    (along g distances limits site entry).paths ≠ [] := by
  unfold along
  dsimp only
  split
  · exact List.cons_ne_nil _ _
  · next h => exact fun he => h (List.isEmpty_iff.2 he)

def intoSite (g : FlowGraph) (distances : OrderedMap Origin (NameMap Nat)) (limits : SearchLimits)
    (analyses : Table Analysis) (site : SinkSite) : List Flow :=
  match observed? analyses site with
  | none => []
  | some taint => (labelsByOrigin taint).entries.map (along g distances limits site)

theorem flows_foldl_enumerateOne (entries : List (Origin × Label)) (e : Enumeration) :
    (entries.foldl (enumerateOne g distances limits site) e).flows =
      e.flows ++ entries.map (along g distances limits site) := by
  induction entries generalizing e with
  | nil => simp
  | cons entry rest ih =>
    have hone : (enumerateOne g distances limits site e entry).flows =
        e.flows ++ [along g distances limits site entry] := rfl
    rw [List.foldl_cons, ih, hone, List.map_cons, List.append_assoc, List.singleton_append]

theorem flows_enumerate : (enumerate g limits analyses sites).flows =
    sites.flatMap (intoSite g g.distanceTable limits analyses) := by
  have hfold : ∀ (sites : List SinkSite) (e : Enumeration),
      (sites.foldl (fun e site =>
        match observed? analyses site with
        | none => e
        | some taint =>
          (labelsByOrigin taint).entries.foldl (enumerateOne g g.distanceTable limits site) e)
        e).flows = e.flows ++ sites.flatMap (intoSite g g.distanceTable limits analyses) := by
    intro sites
    induction sites with
    | nil => simp
    | cons site rest ih =>
      intro e
      rw [List.foldl_cons, ih, List.flatMap_cons, ← List.append_assoc]
      congr 1
      unfold intoSite
      cases observed? analyses site with
      | none => simp
      | some taint => exact flows_foldl_enumerateOne _ e
  exact hfold sites ⟨[], 0, 0⟩

theorem mem_flows_iff {flow : Flow} : flow ∈ (enumerate g limits analyses sites).flows ↔
    ∃ site ∈ sites, ∃ taint origin l, observed? analyses site = some taint ∧
      (labelsByOrigin taint).get? origin = some l ∧
      flow = along g g.distanceTable limits site (origin, l) := by
  rw [flows_enumerate, List.mem_flatMap]
  refine exists_congr fun site => and_congr_right fun _ => ?_
  unfold intoSite
  cases observed? analyses site with
  | none => simp
  | some taint =>
    rw [List.mem_map]
    constructor
    · rintro ⟨⟨origin, l⟩, hl, rfl⟩
      exact ⟨taint, origin, l, rfl, OrderedMap.mem_entries_iff.1 hl, rfl⟩
    · rintro ⟨_, origin, l, he, hl, rfl⟩
      cases he
      exact ⟨(origin, l), OrderedMap.mem_entries_iff.2 hl, rfl⟩

/-! ### Candidates -/

variable {p : Program} {rules : Registry} {scorer : Scorer}

/-- The verdict on a label that takes some nodes into a context. -/
def verdict (p : Program) (rules : Registry) (context : Composite) (nodes : List Atom) (l : Label) :
    Verdict :=
  .judge rules.requiresCanonicalization
    (Step.onPath p rules (nodes.map (fun node => node.toDocument.asText))) context l

/-- Of a label only the origins matter to the verdict. -/
theorem verdict_congr {context : Composite} {nodes : List Atom} {l m : Label} (h : l.origins = m.origins) :
    verdict p rules context nodes l = verdict p rules context nodes m := by
  unfold verdict Verdict.judge Label.unknownOnly
  rw [h]

theorem candidate_spec {flow : Flow} {path : FlowPath} {c : Finding}
    (h : flow.candidate p rules scorer path = .ok c) :
    c.label = flow.label ∧ c.sink = flow.site ∧ c.path = path.nodes ∧
      c.classification = (verdict p rules flow.site.context path.nodes flow.label).classification ∧
      c.collapsed = 1 := by
  obtain ⟨score, -, h⟩ := Result.exists_of_bind_eq_ok h
  cases h
  exact ⟨rfl, rfl, rfl, rfl, rfl⟩

theorem mem_candidates_iff {flows : List Flow} {found : List Finding}
    (h : candidates p rules scorer flows = .ok found) {c : Finding} :
    c ∈ found ↔ ∃ flow ∈ flows, ∃ path ∈ flow.paths, flow.candidate p rules scorer path = .ok c := by
  obtain ⟨lists, hlists, h⟩ := Result.exists_of_bind_eq_ok h
  obtain rfl : lists.flatten = found := Except.ok.inj h
  rw [List.mem_flatten]
  constructor
  · rintro ⟨list, hlist, hc⟩
    obtain ⟨flow, hflow, hlist⟩ := (Result.mem_iff_of_mapM hlists).1 hlist
    exact ⟨flow, hflow, (Result.mem_iff_of_mapM hlist).1 hc⟩
  · rintro ⟨flow, hflow, hc⟩
    obtain ⟨list, hlist, hflow⟩ := Result.exists_of_mapM hlists hflow
    exact ⟨list, hlist, (Result.mem_iff_of_mapM hflow).2 hc⟩

theorem exists_candidate {flows : List Flow} {found : List Finding}
    (h : candidates p rules scorer flows = .ok found) {flow : Flow} (hflow : flow ∈ flows)
    {path : FlowPath} (hpath : path ∈ flow.paths) :
    ∃ c ∈ found, flow.candidate p rules scorer path = .ok c := by
  obtain ⟨lists, hlists, h⟩ := Result.exists_of_bind_eq_ok h
  obtain rfl : lists.flatten = found := Except.ok.inj h
  obtain ⟨list, hlist, hflow⟩ := Result.exists_of_mapM hlists hflow
  obtain ⟨c, hc, hcandidate⟩ := Result.exists_of_mapM hflow hpath
  exact ⟨c, List.mem_flatten.2 ⟨list, hlist, hc⟩, hcandidate⟩

end Flow

/-! ### Sites and observations -/

variable {s : Scan} {found : Scan.Propagation} {config : Document} {notices : List Notice}
  {r : ScanResult} {allowance : Allowance} {previous : NameMap Summary} {origin : Origin}
  {key : String} {index : Nat}

theorem Finding.exists_reports_deduplicate_iff {fs kept : List Finding} (h : deduplicate fs = .ok kept) :
    (∃ f ∈ kept, f.Reports origin key index) ↔ ∃ f ∈ fs, f.Reports origin key index := by
  have hswap : ∀ l : List Finding, (∃ f ∈ l, f.Reports origin key index) ↔
      ∃ classification, ∃ f ∈ l, f.subject = .ok ⟨origin, key, .whole index, classification⟩ := by
    intro l
    constructor
    · rintro ⟨f, hf, classification, hsubject⟩
      exact ⟨classification, f, hf, hsubject⟩
    · rintro ⟨classification, f, hf, hsubject⟩
      exact ⟨f, hf, classification, hsubject⟩
  rw [hswap, hswap]
  exact exists_congr fun classification => exists_subject_deduplicate_iff h _

namespace Scan

theorem stages_of_propagate (h : s.propagate config allowance previous = .ok found) :
    ∃ limits left climits, ResolveLimits.ofConfig config = .ok limits ∧
      (Resolver.ofProgram s.program s.rules limits previous).resolve allowance =
        .ok (found.resolution, left) ∧
      ConcreteLimits.ofConfig config = .ok climits ∧
      found.pass = .ofResolution s.program s.rules found.resolution climits ∧
      found.pass.run left = .ok found.state := by
  obtain ⟨limits, hlimits, h⟩ := Result.exists_of_bind_eq_ok h
  obtain ⟨⟨resolution, left⟩, hresolution, h⟩ := Result.exists_of_bind_eq_ok h
  obtain ⟨climits, hclimits, h⟩ := Result.exists_of_bind_eq_ok h
  obtain ⟨state, hstate, h⟩ := Result.exists_of_bind_eq_ok h
  cases h
  exact ⟨limits, left, climits, hlimits, hresolution, hclimits, rfl, hstate⟩

/-- What a scan propagates comes from a pass that has come to an end. -/
theorem pops_of_propagate (hkeyed : s.program.WellKeyed)
    (h : s.propagate config allowance previous = .ok found) :
    found.pass.program = s.program ∧ found.pass.Completes found.state := by
  obtain ⟨limits, left, climits, -, -, -, hpass, hrun⟩ := stages_of_propagate h
  have hprogram : found.pass.program = s.program := by
    rw [hpass]
    rfl
  exact ⟨hprogram, ConcretePass.completes_of_run (hprogram ▸ hkeyed) hrun⟩

/-- **What was observed at an argument is what is observed at its site.** -/
theorem observes_iff {pass : ConcretePass} {state : ConcreteState} (hprogram : pass.program = s.program)
    (hdone : pass.Completes state) (hkeyed : s.program.WellKeyed)
    (hlayered : s.rules.Layered) {sites : List SinkSite}
    (hsites : s.program.sinkSites s.rules state.analyses = .ok sites) :
    s.Observes state.analyses origin key index ↔ ∃ site ∈ sites, ∃ taint,
      site.node = key ∧ site.argIndex = .whole index ∧
        Flow.observed? state.analyses site = some taint ∧ taint.HasOrigin origin := by
  constructor
  · rintro ⟨id, f, a, seen, n, rule, slot, taint, hf, ha, hseen, hn, hrule, hchecks, harg, htaint,
      horigin⟩
    obtain ⟨g, inputs, hg, hanalyze⟩ := ConcretePass.analysed_of_pops hdone.1 ha
    rw [hprogram] at hg
    obtain rfl : f = g := Option.some.inj (hf.symm.trans hg)
    obtain ⟨rfl, m, hm, hsink, -⟩ := Frame.exists_node_of_sink hanalyze hseen
    obtain rfl : n = m := Option.some.inj (hn.symm.trans hm)
    obtain ⟨site, hsite⟩ : ∃ site, SinkSite.ofArg? f ⟨a.seen.reaching, some a.seen.tainted⟩ rule
        seen.node n index (some slot) = some site :=
      SinkSite.exists_ofArg (hlayered.layers_ne_nil hrule) hchecks
    obtain ⟨-, -, hnode, hfunction, hindex⟩ := SinkSite.ofArg_eq_some hsite
    refine ⟨site, ?_, taint, hnode, hindex, ?_, horigin⟩
    · refine (Program.mem_sinkSites_iff hsites).2 ⟨id, f, a, ha, hf, SinkSite.mem_ofFunction_iff.2 ?_⟩
      exact ⟨seen.node, n, rule, index, some slot, hn, hsink.1, hrule, harg, hsite⟩
    · refine Flow.observed?_eq_some_iff.2 ⟨a, seen, index, ?_, ?_, hindex, htaint⟩
      · rw [hfunction, hkeyed id f hf]
        exact ha
      · rw [hnode]
        exact hseen
  · rintro ⟨site, hsite, taint, rfl, hindex, hobserved, horigin⟩
    obtain ⟨id, f, a, ha, hf, hsite⟩ := (Program.mem_sinkSites_iff hsites).1 hsite
    obtain ⟨node, n, rule, place, slot, hn, hkind, hrule, harg, hsite⟩ :=
      SinkSite.mem_ofFunction_iff.1 hsite
    obtain ⟨hslot, hchecks, hnode, hfunction, hplace⟩ := SinkSite.ofArg_eq_some hsite
    obtain ⟨slot, rfl⟩ := Option.isSome_iff_exists.1 hslot
    obtain ⟨b, seen, position, hb, hseen, hposition, htaint⟩ :=
      Flow.observed?_eq_some_iff.1 hobserved
    rw [hfunction, hkeyed id f hf] at hb
    obtain rfl : a = b := Option.some.inj (ha.symm.trans hb)
    obtain rfl : place = index := by
      rw [hplace] at hindex
      cases hindex
      rfl
    obtain rfl : position = place := by
      rw [hplace] at hposition
      cases hposition
      rfl
    obtain ⟨g, inputs, hg, hanalyze⟩ := ConcretePass.analysed_of_pops hdone.1 ha
    rw [hprogram] at hg
    obtain rfl : f = g := Option.some.inj (hf.symm.trans hg)
    have hkey := (Frame.exists_node_of_sink hanalyze hseen).1
    rw [hnode] at hkey
    obtain rfl : node = seen.node := Frame.key_injective f hkey
    exact ⟨id, f, a, seen, n, rule, slot, taint, hf, ha, hseen, hn, hrule, hchecks, harg, htaint,
      horigin⟩

end Scan

/-! ### Findings -/

theorem Finding.origin_eq {f : Finding} (h : f.label.origins = .singleton origin) :
    f.origin = .ok origin := by
  unfold Finding.origin Label.primaryOrigin?
  rw [h]
  rfl

namespace Flow

variable {p : Program} {rules : Registry} {scorer : Scorer} {g : FlowGraph} {limits : SearchLimits}
  {analyses : Table Analysis} {sites : List SinkSite} {candidates : List Finding}

theorem subject_of_candidate {site : SinkSite} {taint : TaintSet} {l : Label} {path : FlowPath}
    {c : Finding} (hobserved : observed? analyses site = some taint)
    (hl : (labelsByOrigin taint).get? origin = some l)
    (hc : (along g g.distanceTable limits site (origin, l)).candidate p rules scorer path = .ok c) :
    ∃ place, site.argIndex = .whole place ∧
      c.subject = .ok ⟨origin, site.node, .whole place, c.classification⟩ := by
  obtain ⟨hlabel, hsink, -⟩ := candidate_spec hc
  obtain ⟨-, -, place, -, -, hplace, -⟩ := observed?_eq_some_iff.1 hobserved
  have horigin : c.origin = .ok origin := by
    refine Finding.origin_eq ?_
    rw [hlabel]
    exact origins_of_labelsByOrigin hl
  have hsite : c.sink = site := hsink
  refine ⟨place, hplace, ?_⟩
  unfold Finding.subject
  rw [horigin, hsite, hplace]
  rfl

/-- What a candidate is about and how it is judged. -/
structure Explains (p : Program) (rules : Registry) (analyses : Table Analysis) (sites : List SinkSite)
    (c : Finding) (origin : Origin) (index : Int) : Prop where
  placed : c.sink ∈ sites
  argument : c.sink.argIndex = .whole index
  observed : ∃ taint, observed? analyses c.sink = some taint ∧ taint.HasOrigin origin
  subject : c.subject = .ok ⟨origin, c.sink.node, .whole index, c.classification⟩
  judged : ∀ l : Label, l.origins = .singleton origin →
    c.classification = (verdict p rules c.sink.context c.path l).classification

theorem Explains.origin_eq {c : Finding} {index : Int}
    (h : Explains p rules analyses sites c origin index) : c.origin = .ok origin := by
  obtain ⟨o, horigin, hrest⟩ := Result.exists_of_bind_eq_ok h.subject
  obtain ⟨place, -, hrest⟩ := Result.exists_of_bind_eq_ok hrest
  cases hrest
  exact horigin

theorem explains_of_candidate {site : SinkSite} (hsite : site ∈ sites) {taint : TaintSet} {l : Label}
    {path : FlowPath} {c : Finding} (hobserved : observed? analyses site = some taint)
    (hl : (labelsByOrigin taint).get? origin = some l)
    (hc : (along g g.distanceTable limits site (origin, l)).candidate p rules scorer path = .ok c) :
    c.sink = site ∧ c.path = path.nodes ∧ ∃ place, Explains p rules analyses sites c origin place := by
  obtain ⟨-, rfl, hpath, hjudged, -⟩ := candidate_spec hc
  obtain ⟨place, hplace, hsubject⟩ := subject_of_candidate hobserved hl hc
  refine ⟨rfl, hpath, place, hsite, hplace, ⟨taint, hobserved, exists_labelsByOrigin_iff.1 ⟨l, hl⟩⟩,
    hsubject, fun m hm => ?_⟩
  have horigins : l.origins = m.origins := (origins_of_labelsByOrigin hl).trans hm.symm
  rw [hjudged, hpath, ← verdict_congr horigins]
  rfl

theorem exists_explains_of_mem_candidates
    (h : Flow.candidates p rules scorer (enumerate g limits analyses sites).flows = .ok candidates)
    {c : Finding} (hc : c ∈ candidates) :
    ∃ origin place, Explains p rules analyses sites c origin place := by
  obtain ⟨flow, hflow, path, -, hcandidate⟩ := (mem_candidates_iff h).1 hc
  obtain ⟨site, hsite, taint, origin, l, hobserved, hl, rfl⟩ := mem_flows_iff.1 hflow
  obtain ⟨-, -, place, hexplains⟩ := explains_of_candidate hsite hobserved hl hcandidate
  exact ⟨origin, place, hexplains⟩

/-- An observed origin has a candidate on each path of its flow. -/
theorem exists_candidate_on
    (h : Flow.candidates p rules scorer (enumerate g limits analyses sites).flows = .ok candidates)
    {site : SinkSite} (hsite : site ∈ sites) {taint : TaintSet}
    (hobserved : observed? analyses site = some taint) {l : Label}
    (hl : (labelsByOrigin taint).get? origin = some l) {path : FlowPath}
    (hpath : path ∈ (along g g.distanceTable limits site (origin, l)).paths) :
    ∃ c ∈ candidates, c.sink = site ∧ c.path = path.nodes ∧
      ∃ index, Explains p rules analyses sites c origin index := by
  have hflow : along g g.distanceTable limits site (origin, l) ∈
      (enumerate g limits analyses sites).flows :=
    mem_flows_iff.2 ⟨site, hsite, taint, origin, l, hobserved, hl, rfl⟩
  obtain ⟨c, hc, hcandidate⟩ := exists_candidate h hflow hpath
  exact ⟨c, hc, explains_of_candidate hsite hobserved hl hcandidate⟩

theorem mem_paths_along {site : SinkSite} {l : Label} {path : FlowPath}
    (h : path ∈ ((g.searchFor limits origin).run site.node site.slot).paths) :
    path ∈ (along g g.distanceTable limits site (origin, l)).paths := by
  have hfound : ((g.searchFor limits origin).run site.node site.slot).paths.isEmpty ≠ true :=
    fun he => List.ne_nil_of_mem h (List.isEmpty_iff.1 he)
  unfold FlowGraph.searchFor at h hfound
  unfold along
  dsimp only
  rw [if_neg hfound]
  exact h

theorem exists_reports_of_mem_candidates
    (h : Flow.candidates p rules scorer (enumerate g limits analyses sites).flows = .ok candidates)
    (hsites : p.sinkSites rules analyses = .ok sites) {c : Finding} (hc : c ∈ candidates) :
    ∃ origin key index, c.Reports origin key index := by
  obtain ⟨origin, place, hexplains⟩ := exists_explains_of_mem_candidates h hc
  -- the argument of a site is a place in the list of arguments
  obtain ⟨_, _, _, -, -, hsite⟩ := (Program.mem_sinkSites_iff hsites).1 hexplains.placed
  obtain ⟨_, _, _, index, _, -, -, -, -, hsite⟩ := SinkSite.mem_ofFunction_iff.1 hsite
  obtain ⟨-, -, -, -, hindex⟩ := SinkSite.ofArg_eq_some hsite
  obtain rfl : place = index := Atom.whole.inj (hexplains.argument.symm.trans hindex)
  exact ⟨origin, c.sink.node, index, c.classification, hexplains.subject⟩

/-- **The candidates are about what was observed at the sites.** -/
theorem exists_candidate_iff
    (h : Flow.candidates p rules scorer (enumerate g limits analyses sites).flows = .ok candidates) :
    (∃ c ∈ candidates, c.Reports origin key index) ↔ ∃ site ∈ sites, ∃ taint, site.node = key ∧
      site.argIndex = .whole index ∧ observed? analyses site = some taint ∧
        taint.HasOrigin origin := by
  constructor
  · rintro ⟨c, hc, classification, hreported⟩
    obtain ⟨o, place, hexplains⟩ := exists_explains_of_mem_candidates h hc
    rw [hexplains.subject] at hreported
    cases hreported
    obtain ⟨taint, hobserved, horigin⟩ := hexplains.observed
    exact ⟨c.sink, hexplains.placed, taint, rfl, hexplains.argument, hobserved, horigin⟩
  · rintro ⟨site, hsite, taint, rfl, hindex, hobserved, horigin⟩
    obtain ⟨l, hl⟩ := exists_labelsByOrigin_iff.2 horigin
    obtain ⟨path, hpath⟩ := List.exists_mem_of_ne_nil _
      (paths_ne_nil g g.distanceTable limits site (origin, l))
    obtain ⟨c, hc, rfl, -, place, hexplains⟩ := exists_candidate_on h hsite hobserved hl hpath
    obtain rfl : place = index := Atom.whole.inj (hexplains.argument.symm.trans hindex)
    exact ⟨c, hc, c.classification, hexplains.subject⟩

end Flow

namespace Scan

theorem exists_propagation (h : s.run config allowance previous = .ok r) :
    ∃ settings notices found, Settings.merge config = .ok (settings, notices) ∧
      s.propagate settings.toDocument allowance previous = .ok found ∧
      s.report settings.toDocument notices found = .ok r := by
  obtain ⟨⟨settings, notices⟩, hmerge, h⟩ := Result.exists_of_bind_eq_ok h
  obtain ⟨found, hfound, h⟩ := Result.exists_of_bind_eq_ok h
  exact ⟨settings, notices, found, hmerge, hfound, h⟩

theorem stages_of_report (h : s.report config notices found = .ok r) :
    ∃ sites limits scorer candidates findings,
      s.program.sinkSites s.rules found.state.analyses = .ok sites ∧
      Flow.candidates s.program s.rules scorer
        (Flow.enumerate (flowGraph found.state.analyses) limits found.state.analyses sites).flows =
          .ok candidates ∧
      Finding.deduplicate candidates = .ok findings ∧
      r.findings = Finding.sort findings ∧ r.stats.pathsEnumerated = candidates.length ∧
      r.summaries = found.resolution.summaries ∧ SearchLimits.ofConfig config = .ok limits := by
  obtain ⟨resolution, pass, state⟩ := found
  obtain ⟨sites, hsites, h⟩ := Result.exists_of_bind_eq_ok h
  obtain ⟨discovery, -, h⟩ := Result.exists_of_bind_eq_ok h
  obtain ⟨analysis, -, h⟩ := Result.exists_of_bind_eq_ok h
  obtain ⟨limits, hlimits, h⟩ := Result.exists_of_bind_eq_ok h
  obtain ⟨scorer, -, h⟩ := Result.exists_of_bind_eq_ok h
  obtain ⟨candidates, hcandidates, h⟩ := Result.exists_of_bind_eq_ok h
  obtain ⟨findings, hfindings, h⟩ := Result.exists_of_bind_eq_ok h
  obtain ⟨dedup, -, h⟩ := Result.exists_of_bind_eq_ok h
  cases h
  exact ⟨sites, limits, scorer, candidates, findings, hsites, hcandidates, hfindings, rfl, rfl, rfl, hlimits⟩

theorem perm_findings {findings : List Finding} (h : r.findings = Finding.sort findings) :
    r.findings.Perm findings := by
  rw [h]
  exact Insertion.sort_perm _ _

/-- The findings are about just what the last analyses have observed. -/
theorem exists_finding_iff (hkeyed : s.program.WellKeyed) (hlayered : s.rules.Layered)
    (hfound : s.propagate config allowance previous = .ok found)
    (hreport : s.report config notices found = .ok r) :
    (∃ f ∈ r.findings, f.Reports origin key index) ↔
      s.Observes found.state.analyses origin key index := by
  obtain ⟨sites, limits, scorer, candidates, findings, hsites, hcandidates, hfindings, hsorted, -⟩ :=
    stages_of_report hreport
  obtain ⟨hprogram, hdone⟩ := pops_of_propagate hkeyed hfound
  calc (∃ f ∈ r.findings, f.Reports origin key index)
    _ ↔ ∃ f ∈ findings, f.Reports origin key index := by simp only [(perm_findings hsorted).mem_iff]
    _ ↔ ∃ c ∈ candidates, c.Reports origin key index :=
      Finding.exists_reports_deduplicate_iff hfindings
    _ ↔ _ := Flow.exists_candidate_iff hcandidates
    _ ↔ _ := (observes_iff hprogram hdone hkeyed hlayered hsites).symm

/-- Every finding is explained by an observation at a site. -/
theorem exists_explains_of_mem_findings (hreport : s.report config notices found = .ok r) {f : Finding}
    (hf : f ∈ r.findings) : ∃ sites origin index,
      s.program.sinkSites s.rules found.state.analyses = .ok sites ∧
      Flow.Explains s.program s.rules found.state.analyses sites f origin index := by
  obtain ⟨sites, limits, scorer, candidates, findings, hsites, hcandidates, hfindings, hsorted, -⟩ :=
    stages_of_report hreport
  obtain ⟨c, hc, collapsed, related, rfl⟩ :=
    Finding.exists_mem_of_mem_deduplicate hfindings ((perm_findings hsorted).mem_iff.1 hf)
  obtain ⟨origin, index, hexplains⟩ := Flow.exists_explains_of_mem_candidates hcandidates hc
  exact ⟨sites, origin, index, hsites, hexplains.placed, hexplains.argument, hexplains.observed,
    hexplains.subject, hexplains.judged⟩

/-- **Every path that the search finds is reported under the verdict on it.** -/
theorem exists_finding_of_path (hreport : s.report config notices found = .ok r) {limits : SearchLimits}
    (hlimits : SearchLimits.ofConfig config = .ok limits) {sites : List SinkSite}
    (hsites : s.program.sinkSites s.rules found.state.analyses = .ok sites) {site : SinkSite}
    (hsite : site ∈ sites) {taint : TaintSet}
    (hobserved : Flow.observed? found.state.analyses site = some taint) (horigin : taint.HasOrigin origin)
    {path : FlowPath} (hpath : path ∈
      (((flowGraph found.state.analyses).searchFor limits origin).run site.node site.slot).paths) :
    ∃ f ∈ r.findings, ∃ index l, site.argIndex = .whole index ∧ l.origins = .singleton origin ∧
      f.subject = .ok ⟨origin, site.node, .whole index,
        (Flow.verdict s.program s.rules site.context path.nodes l).classification⟩ := by
  obtain ⟨sites', limits', scorer, candidates, findings, hsites', hcandidates, hfindings, hsorted, -, -,
    hlimits'⟩ := stages_of_report hreport
  obtain rfl : sites = sites' := Except.ok.inj (hsites.symm.trans hsites')
  obtain rfl : limits = limits' := Except.ok.inj (hlimits.symm.trans hlimits')
  obtain ⟨l, hl⟩ := Flow.exists_labelsByOrigin_iff.2 horigin
  obtain ⟨c, hc, rfl, hnodes, index, hexplains⟩ :=
    Flow.exists_candidate_on hcandidates hsite hobserved hl (Flow.mem_paths_along hpath)
  have horigins := Flow.origins_of_labelsByOrigin hl
  obtain ⟨f, hf, hsubject⟩ :=
    (Finding.exists_subject_deduplicate_iff hfindings _).2 ⟨c, hc, hexplains.subject⟩
  refine ⟨f, (perm_findings hsorted).mem_iff.2 hf, index, l, hexplains.argument, horigins, ?_⟩
  rw [hsubject, hexplains.judged l horigins, hnodes]

/-- **No flow is lost and none is made up.**  Whatever the limits are, the findings of a scan are about just
the origins that the last analyses have observed at checked arguments of sink calls, and together they
stand for all paths. -/
theorem findings_exact (s : Scan) (overrides : Document) (allowance : Allowance)
    (previous : NameMap Summary) (hkeyed : s.program.WellKeyed) (hlayered : s.rules.Layered)
    (r : ScanResult) (hrun : s.run overrides allowance previous = .ok r) :
    ∃ settings notices found, Settings.merge overrides = .ok (settings, notices) ∧
      s.propagate settings.toDocument allowance previous = .ok found ∧
      (∀ origin key index, (∃ f ∈ r.findings, f.Reports origin key index) ↔
        s.Observes found.state.analyses origin key index) ∧
      (∀ f ∈ r.findings, ∃ origin key index, f.Reports origin key index) ∧
      (r.findings.map Finding.collapsed).sum = r.stats.pathsEnumerated := by
  obtain ⟨settings, notices, found, hmerge, hfound, hreport⟩ := exists_propagation hrun
  obtain ⟨sites, limits, scorer, candidates, findings, hsites, hcandidates, hfindings, hsorted,
    hcount, -⟩ := stages_of_report hreport
  refine ⟨settings, notices, found, hmerge, hfound,
    fun origin key index => exists_finding_iff hkeyed hlayered hfound hreport, fun f hf => ?_, ?_⟩
  · obtain ⟨c, hc, collapsed, related, rfl⟩ :=
      Finding.exists_mem_of_mem_deduplicate hfindings ((perm_findings hsorted).mem_iff.1 hf)
    obtain ⟨origin, key, index, classification, hsubject⟩ :=
      Flow.exists_reports_of_mem_candidates hcandidates hsites hc
    exact ⟨origin, key, index, classification, hsubject⟩
  · rw [((perm_findings hsorted).map Finding.collapsed).sum_eq,
      Finding.sum_collapsed_deduplicate hfindings, hcount]

end Scan

/-! ### A flow without a path that can be searched -/

/-- A function that passes its parameter, which comes from outside, to a command interpreter. -/
def exposed : Scan where
  program := {
    functions := .ofList [("f", { Function.bare "f" "use" [] [
        ("use", { Node.bare .call [] with api := .text "exec", args := [some "x"] })] with
      params := [⟨"x", some .networkParameter, false, none⟩] })]
    globals := ∅
    malformed := ∅ }
  rules := interpreterRules
  strict := true

/-- Settings under which a search may not take a single step. -/
def shallow : Document := .object [("limits", .object [("max_path_depth", .whole 0)])]

theorem layered_exposed : exposed.rules.Layered :=
  Registry.Layered.addSink (fun _ _ h => by cases h) (List.cons_ne_nil _ _) _

/-- The search finds no path, and the flow is reported all the same. -/
theorem findings_exact_exposed : ∃ settings notices found r,
    Settings.merge shallow = .ok (settings, notices) ∧
      exposed.propagate settings.toDocument .unlimited ∅ = .ok found ∧
      exposed.run shallow .unlimited ∅ = .ok r ∧
      exposed.Observes found.state.analyses .networkParameter "f::use" 0 ∧
      (r.findings.map Finding.collapsed).sum = r.stats.pathsEnumerated := by
  obtain ⟨r, hrun, hr⟩ := Result.exists_ok_of_any (r := exposed.run shallow .unlimited ∅)
    (p := fun r => r.findings.any (fun f =>
      f.subject.toOption = some ⟨.networkParameter, "f::use", .whole 0, .insufficient⟩))
    (by decide +kernel)
  obtain ⟨f, hf, hsubject⟩ := List.any_eq_true.1 hr
  obtain ⟨settings, notices, found, hmerge, hfound, hexact, -, hcount⟩ :=
    Scan.findings_exact exposed shallow .unlimited ∅
      (Program.wellKeyed_of_all (by decide +kernel)) layered_exposed r hrun
  refine ⟨settings, notices, found, r, hmerge, hfound, hrun, (hexact _ _ _).1 ⟨f, hf, ?_⟩, hcount⟩
  exact ⟨.insufficient, Result.eq_ok_of_toOption (of_decide_eq_true hsubject)⟩

end TaintFlow
