import TaintFlow.Proofs.Concrete.Coverage
import TaintFlow.Proofs.Scan.Dedup
import TaintFlow.Proofs.Scan.Flows

/-!
# Checks that never fail

The three checks of a scan compare what the pass has met with what was made of it.  Every sink call with a
checked argument that was met has a site, every function that was to be reached was analysed or has failed,
and deduplication counts every path once.  So none of the checks fails, whatever the limits are.
-/

namespace TaintFlow

/-! ### Functions that were cut short -/

namespace ConcretePass

variable {p : ConcretePass} {c : ConcreteState} {id : String}

theorem ran_of_truncated (hrounds : 0 < p.limits.maxRounds)
    (h : Relation.ReflTransGen p.Pops (.start p.entries) c) (hid : id ∈ c.truncated) :
    0 < c.runsOf id := by
  have hset : ∀ {c : ConcreteState} {popped : String} {n : Nat}, 0 < c.runsOf id →
      0 < (c.runs.set popped (n + 1)).getD id 0 := by
    intro c popped n hc
    rw [OrderedMap.getD_set]
    split
    · exact Nat.succ_pos n
    · exact hc
  induction h with
  | refl => exact absurd hid (OrderedSet.not_mem_empty id)
  | tail _ hstep ih =>
    obtain ⟨popped, -, hrun⟩ := hstep
    rcases runOne_cases hrun with ⟨hruns, rfl⟩ | ⟨f, -, -, ⟨a, -, rfl⟩ | ⟨message, rfl⟩⟩
    · rcases OrderedSet.mem_insert.1 hid with rfl | hid
      · exact Nat.lt_of_lt_of_le hrounds hruns
      · exact ih hid
    · rw [(p.recorded_record _ popped a).truncated] at hid
      unfold ConcreteState.runsOf
      rw [(p.recorded_record _ popped a).runs]
      exact hset (ih hid)
    · exact hset (ih hid)

/-- **What was met in a pass that has ended is accounted for**, also if it was cut short. -/
theorem accounts_of_met (hkeyed : p.program.WellKeyed) (hrounds : 0 < p.limits.maxRounds)
    (hdone : p.Completes c) (hmet : c.Met id) : c.Accounts id := by
  have hinv := invariant_of_pops hkeyed hdone.1
  rcases hmet with hin | hruns | hin
  · rw [hdone.2] at hin
    exact absurd hin List.not_mem_nil
  · exact hinv.finished id hruns
  · exact hinv.finished id (ran_of_truncated hrounds hdone.1 hin)

end ConcretePass

namespace Scan

variable {s : Scan} {pass : ConcretePass} {state : ConcreteState} {sites : List SinkSite}

/-- **Every sink call that was met has a site.** -/
theorem exists_site_of_mem_observedSinks (hprogram : pass.program = s.program) (hdone : pass.Completes state)
    (hlayered : s.rules.Layered) (hsites : s.program.sinkSites s.rules state.analyses = .ok sites)
    {key : String} (hkey : key ∈ s.observedSinks state.analyses) : ∃ site ∈ sites, site.node = key := by
  obtain ⟨⟨id, a⟩, hentry, hkey⟩ := List.mem_flatMap.1 (OrderedSet.mem_ofList.1 hkey)
  obtain ⟨⟨other, seen⟩, hseen, hkey⟩ := List.mem_filterMap.1 hkey
  have ha := Table.mem_entries_iff.1 hentry
  have hseen := OrderedMap.mem_entries_iff.1 hseen
  dsimp only at hkey
  split at hkey
  · next n hn =>
    split at hkey
    · next hchecked =>
      cases hkey
      obtain ⟨f, hf, hn⟩ := Option.bind_eq_some_iff.1 hn
      obtain ⟨g, inputs, hg, hanalyze⟩ := ConcretePass.analysed_of_pops hdone.1 ha
      rw [hprogram] at hg
      obtain rfl : f = g := Option.some.inj (hf.symm.trans hg)
      obtain ⟨rfl, m, hm, hsink, -⟩ := Frame.exists_node_of_sink hanalyze hseen
      obtain rfl : n = m := Option.some.inj (hn.symm.trans hm)
      unfold hasCheckedArg at hchecked
      split at hchecked
      · next rule hrule =>
        obtain ⟨⟨index, slot⟩, harg, hchecks⟩ := List.any_eq_true.1 hchecked
        obtain ⟨hindex, hslot⟩ := Bool.and_eq_true_iff.1 hchecks
        obtain ⟨slot, rfl⟩ := Option.isSome_iff_exists.1 hslot
        obtain ⟨site, hsite⟩ : ∃ site, SinkSite.ofArg? f ⟨a.seen.reaching, some a.seen.tainted⟩ rule
            seen.node n index (some slot) = some site :=
          SinkSite.exists_ofArg (hlayered.layers_ne_nil hrule) hindex
        refine ⟨site, (Program.mem_sinkSites_iff hsites).2 ⟨id, f, a, ha, hf, ?_⟩,
          (SinkSite.ofArg_eq_some hsite).2.2.1⟩
        exact SinkSite.mem_ofFunction_iff.2 ⟨seen.node, n, rule, index, some slot, hn, hsink.1, hrule,
          Node.mem_indexedArgs.1 harg, hsite⟩
      · cases hchecked
    · cases hkey
  · cases hkey

theorem discovery_holds (hprogram : pass.program = s.program) (hdone : pass.Completes state)
    (hlayered : s.rules.Layered) (hsites : s.program.sinkSites s.rules state.analyses = .ok sites)
    (sources : List SourceNode) : (s.discoveryOutcome sources sites state.analyses).failed = false := by
  have hlost : ((s.observedSinks state.analyses).diff (.ofList (sites.map SinkSite.node))).toList = [] := by
    refine List.eq_nil_iff_forall_not_mem.2 fun key hkey => ?_
    obtain ⟨hkey, hnot⟩ := OrderedSet.mem_diff.1 hkey
    obtain ⟨site, hsite, rfl⟩ := exists_site_of_mem_observedSinks hprogram hdone hlayered hsites hkey
    exact hnot (OrderedSet.mem_ofList.2 (List.mem_map.2 ⟨site, hsite, rfl⟩))
  unfold discoveryOutcome
  dsimp only
  rw [hlost]
  rfl

/-- **Every function that was to be reached was analysed or has failed.** -/
theorem accounts_of_mem_expectedFunctions (hkeyed : pass.program.WellKeyed) (hgrounded : pass.Grounded)
    (hrounds : 0 < pass.limits.maxRounds) (hdone : pass.Completes state) {id : String}
    (hid : id ∈ expectedFunctions pass state.analyses) : state.Accounts id := by
  have hinv := ConcretePass.invariant_of_pops hkeyed hdone.1
  refine ConcretePass.accounts_of_met hkeyed hrounds hdone ?_
  rcases List.mem_append.1 (OrderedSet.mem_ofList.1 hid) with hentry | hcalled
  · exact hinv.entries id hentry
  · obtain ⟨a, ha, hcallee⟩ := List.mem_flatMap.1 hcalled
    obtain ⟨hcallee, husable⟩ := List.mem_filter.1 hcallee
    obtain ⟨call, hcall, rfl⟩ := List.mem_map.1 hcallee
    obtain ⟨caller, ha⟩ := Table.mem_values_iff.1 ha
    obtain ⟨g, hg⟩ := hgrounded _ husable
    have hname : g.id = call.callee := hkeyed _ g hg
    have hmet := hinv.called caller a ha call hcall g hg (hname.symm ▸ husable)
    rwa [hname] at hmet

theorem analysis_holds (hkeyed : pass.program.WellKeyed) (hgrounded : pass.Grounded)
    (hrounds : 0 < pass.limits.maxRounds) (hdone : pass.Completes state) (degraded : Nat) :
    (analysisOutcome pass degraded state).failed = false := by
  have hmissing : (((expectedFunctions pass state.analyses).diff (.ofList state.analyses.keys)).diff
      (.ofList state.failures.keys)).toList = [] := by
    refine List.eq_nil_iff_forall_not_mem.2 fun id hid => ?_
    obtain ⟨hid, hfailed⟩ := OrderedSet.mem_diff.1 hid
    obtain ⟨hid, hanalysed⟩ := OrderedSet.mem_diff.1 hid
    rcases accounts_of_mem_expectedFunctions hkeyed hgrounded hrounds hdone hid with ha | hf
    · exact hanalysed (OrderedSet.mem_ofList.2 (Table.mem_keys_iff.2 ha))
    · exact hfailed (OrderedSet.mem_ofList.2 (OrderedMap.mem_keys_iff.2 hf))
  unfold analysisOutcome
  dsimp only
  rw [hmissing]
  rfl

/-- **Deduplication counts every path once.** -/
theorem dedup_holds {candidates findings : List Finding} (h : Finding.deduplicate candidates = .ok findings) :
    (dedupOutcome candidates findings).failed = false := by
  have hsum : findings.foldl (fun n f => n + f.collapsed) 0 = candidates.length := by
    rw [← Finding.sum_collapsed_deduplicate h, List.sum_eq_foldl, List.foldl_map]
  have hequal : ∀ n : Nat, (Document.ofNat n).equals (.ofNat n) = true := fun n => by
    simp [Document.ofNat, Document.equals]
  unfold dedupOutcome Fidelity.checkDedup
  rw [hsum, Option.getD_some, hequal, hequal]
  rfl

theorem enforce_of_holds {o : Fidelity.Outcome} (h : o.failed = false) (strict : Bool) :
    Fidelity.enforce strict o = .ok o := by
  unfold Fidelity.enforce
  rw [h]
  rfl

end Scan

end TaintFlow
