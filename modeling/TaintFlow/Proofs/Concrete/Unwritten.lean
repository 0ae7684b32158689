import TaintFlow.Proofs.Concrete.Solution
import TaintFlow.Proofs.Flow.Unwritten
import TaintFlow.Proofs.Summary.Contents
import TaintFlow.Proofs.Summary.Throughout

/-!
# Globals that a program does not write

No node of a program has a certain global for a target, and no call passes it as an argument.  One would think
that the global is left alone: no summary has it for an output, and the table of globals has no entry for it.
That is so unless a function redefines it, as the name of a parameter, of the receiver or of the result
(`spared_unless_redefined`).  Then the function counts as writing the global, and callers and the table get
what the parameter holds (`not_spared_shadowing`).
-/

namespace TaintFlow

namespace Summary

variable {f : Function} {a : Analysis} {name : String}

/-- The output of a global that is mentioned and counts as written. -/
theorem mem_outputs_global_iff {o : Output} : o ∈ outputs f a ∧ o.marker = globalMarker name ↔
    (name ∈ a.globals ∧ a.Writes name) ∧ o = ⟨globalMarker name, name, some (globalKey name)⟩ := by
  simp only [outputs, List.cons_append, List.mem_cons, List.mem_append, List.mem_map, List.mem_filter]
  constructor
  · rintro ⟨rfl | ⟨⟨i, p⟩, -, rfl⟩ | ⟨other, ⟨hmentioned, hwritten⟩, rfl⟩, hmarker⟩
    · exact absurd hmarker (returnSlot_ne_globalMarker name)
    · exact absurd hmarker.symm (globalMarker_ne_paramMarker name i)
    · obtain rfl := globalMarker_injective hmarker
      exact ⟨⟨hmentioned, Analysis.writes_iff.1 (by simpa using hwritten)⟩, rfl⟩
  · rintro ⟨⟨hmentioned, hwrites⟩, rfl⟩
    refine ⟨Or.inr (Or.inr ⟨name, ⟨hmentioned, ?_⟩, rfl⟩), rfl⟩
    rw [Analysis.writes_iff.2 hwrites]
    rfl

/-- **A summary outputs the globals that the function mentions and counts as writing.** -/
theorem outputs_ofAnalysis_iff :
    (ofAnalysis f a).toEffect.Outputs name ↔ name ∈ a.globals ∧ a.Writes name := by
  constructor
  · rintro (⟨t, ht, houtput⟩ | ⟨taint, htaint⟩ | ⟨defs, hdefs⟩)
    · obtain ⟨o, ho, l, -, m, -, -, rfl⟩ := mem_transfers_iff.1 ht
      exact (mem_outputs_global_iff.1 ⟨ho, Atom.text.inj houtput⟩).1
    · obtain ⟨o, ho, hmarker, -⟩ := (get?_ofList_outputs f a _ _ _ _).1 htaint
      exact (mem_outputs_global_iff.1 ⟨ho, hmarker⟩).1
    · obtain ⟨o, ho, hmarker, -⟩ := (get?_ofList_outputs f a _ _ _ _).1 hdefs
      exact (mem_outputs_global_iff.1 ⟨ho, hmarker⟩).1
  · -- a global that is written has a definition, which the summary keeps
    intro h
    obtain ⟨houtput, hmarker⟩ := mem_outputs_global_iff.2 ⟨h, rfl⟩
    obtain ⟨d, hne, hd⟩ := h.2
    have hdefines : d ∈ (ofAnalysis f a).exitDefs.getD (globalMarker name) ∅ :=
      mem_getD_exitDefs_iff.2 ⟨_, houtput, hmarker, OrderedSet.mem_erase.2 ⟨hd, hne⟩⟩
    obtain ⟨defs, hdefs, -⟩ := OrderedMap.mem_getD_iff.1 hdefines
    exact Or.inr (Or.inr ⟨defs, hdefs⟩)

theorem not_outputs_failed (function contentHash error name : String) :
    ¬ (failed function contentHash error).toEffect.Outputs name := by
  rintro (⟨t, ht, -⟩ | ⟨taint, htaint⟩ | ⟨defs, hdefs⟩)
  · exact OrderedSet.not_mem_empty t ht
  · cases htaint
  · cases hdefs

end Summary

/-! ### Spared globals -/

def Program.Spares (p : Program) (name : String) : Prop :=
  ∀ id f, p.functions.get? id = some f → f.Spares name

theorem Program.spares_of_all {p : Program} {name : String}
    (h : ∀ entry ∈ p.functions.entries, ∀ node ∈ entry.2.nodes.entries,
      node.2.target ≠ .text name ∧ (node.2.kind = .call → some name ∉ node.2.args)) : p.Spares name := by
  intro id f hf
  have hnode : ∀ node n, f.node? node = some n →
      n.target ≠ .text name ∧ (n.kind = .call → some name ∉ n.args) :=
    fun node n hn => h (id, f) (Table.mem_entries_iff.2 hf) (node, n) (Table.mem_entries_iff.2 hn)
  exact ⟨fun node n hn => (hnode node n hn).1, fun node n hn => (hnode node n hn).2⟩

namespace Resolver

variable {p : Program} {rules : Registry} {limits : ResolveLimits} {previous : NameMap Summary}
  {name : String}

theorem hereditary_not_outputs (hspares : p.Spares name)
    (hprevious : ∀ id s, previous.get? id = some s → ¬ s.toEffect.Outputs name)
    (hnone : ∀ id f, p.functions.get? id = some f → ¬ f.Redefines p.globals name) :
    (ofProgram p rules limits previous).Hereditary (fun s => ¬ s.toEffect.Outputs name) where
  failed _ _ _ := Summary.not_outputs_failed _ _ _ _
  earlier := hprevious
  made view id f s hf hview hs := by
    rcases summarize_cases hs with ⟨a, ha, rfl⟩ | ⟨error, rfl⟩
    · have hframe : ((ofProgram p rules limits previous).frameOf view f).function.Spares name :=
        hspares id f hf
      have heffects : ∀ callee e,
          ((ofProgram p rules limits previous).frameOf view f).effects callee = some e →
            ¬ e.Outputs name := by
        intro callee e he
        obtain ⟨t, ht, rfl⟩ := Option.map_eq_some_iff.1 he
        exact hview callee t ht
      intro houtputs
      obtain ⟨hname, hwrites⟩ := Summary.outputs_ofAnalysis_iff.1 houtputs
      have hredefines := Frame.redefines_of_writes hframe heffects ha hname hwrites
      exact hnone id f hf hredefines
    · exact Summary.not_outputs_failed _ _ _ _

theorem outputs_of_redefines {id : String} {f : Function} {s : Summary}
    (hspares : p.Spares name) (hf : p.functions.get? id = some f) (hredefines : f.Redefines p.globals name)
    (hs : (ofProgram p rules limits previous).SummaryOf f s) (hknown : s.unknown = false) :
    s.toEffect.Outputs name := by
  rcases hs with ⟨view, hs⟩ | ⟨error, rfl⟩
  · rcases summarize_cases hs with ⟨a, ha, rfl⟩ | ⟨error, rfl⟩
    · refine Summary.outputs_ofAnalysis_iff.2 ⟨?_, ?_⟩
      · rw [Frame.globals_of_analyze ha]
        exact hredefines.1
      · exact Frame.writes_of_redefines (hspares id f hf) ha hredefines
    · cases hknown
  · cases hknown

end Resolver

namespace ConcretePass

/-- **A global that no node writes is left alone unless a function redefines it.**  If no function does, no
published summary has the global for an output, and the table of a pass has no entry for it.  A function that
does has the global among the outputs of its summary, if that is known and was made anew, and what it carries
in the slot at the end of an analysis stands in the table. -/
theorem spared_unless_redefined (p : Program) (rules : Registry) (limits : ResolveLimits)
    (previous : NameMap Summary) (hkeyed : p.WellKeyed) (allowance left : Allowance) (res : Resolution)
    (hres : (Resolver.ofProgram p rules limits previous).resolve allowance = .ok (res, left))
    (name : String) (hspares : p.Spares name)
    (hprevious : ∀ id s, previous.get? id = some s → ¬ s.toEffect.Outputs name) :
    ((∀ id f, p.functions.get? id = some f → ¬ f.Redefines p.globals name) →
      (∀ id s, res.summaries.get? id = some s → ¬ s.toEffect.Outputs name) ∧
      ∀ climits allowance' c, (ofResolution p rules res climits).run allowance' = .ok c →
        c.globals.get? (.text name) = none) ∧
    ∀ id f, p.functions.get? id = some f → f.Redefines p.globals name →
      (∀ s, res.summaries.get? id = some s → s.unknown = false → id ∉ res.reused →
        s.toEffect.Outputs name) ∧
      ∀ climits allowance' c, (ofResolution p rules res climits).run allowance' = .ok c →
        ∀ a i, c.analyses.get? id = some a → a.exit.Carries (.text name) i →
          c.GlobalHolds (.text name) i := by
  refine ⟨fun hnone => ?_, fun id f hf hredefines => ⟨fun s hs hknown hanew => ?_, ?_⟩⟩
  · have hsummaries := (Resolver.hereditary_not_outputs hspares hprevious hnone).resolve hres
    refine ⟨hsummaries, fun climits allowance' c hrun => ?_⟩
    have hpops := (completes_of_run hkeyed hrun).1
    cases hentry : c.globals.get? (.text name) with
    | none => rfl
    | some taint =>
      have hcontains : c.globals.contains (.text name) = true := by
        rw [OrderedMap.contains, hentry]
        rfl
      obtain ⟨id, f, inputs, a, other, hf, ha, hmentioned, hwrites, hsame⟩ := written_of_pops hpops hcontains
      obtain rfl := Key.text.inj hsame
      refine absurd (Frame.redefines_of_writes (hspares id f hf) ?_ ha hmentioned hwrites) (hnone id f hf)
      intro callee e he
      obtain ⟨t, ht, rfl⟩ := Option.map_eq_some_iff.1 he
      exact hsummaries callee t ht
  · rcases Resolver.known_of_resolve hkeyed hres hs hknown with ⟨c, -, -, hreused⟩ | ⟨-, g, hg, hmade⟩
    · exact absurd hreused hanew
    · obtain rfl : g = f := Option.some.inj (hg.symm.trans hf)
      exact Resolver.outputs_of_redefines hspares hf hredefines hmade hknown
  · intro climits allowance' c hrun a i ha hi
    have hpops := (completes_of_run hkeyed hrun).1
    obtain ⟨g, inputs, hg, hanalyze⟩ := analysed_of_pops hpops ha
    obtain rfl : g = f := Option.some.inj (hg.symm.trans hf)
    have hwrites := Frame.writes_of_redefines (hspares id g hf) hanalyze hredefines
    have hmentioned : name ∈ a.globals := by
      rw [Frame.globals_of_analyze hanalyze]
      exact hredefines.1
    exact (invariant_of_pops hkeyed hpops).written id a ha name hmentioned hwrites i hi

end ConcretePass

/-! ### A parameter that is called like a global -/

/-- Returns its parameter, which is called like the global `G` and comes from outside, and the global `H`. -/
def shadower : Function :=
  { Function.bare "f" "end" [] [("end", { Node.bare .ret [] with operands := ["G", "H"] })] with
    params := [⟨"G", some .networkParameter, false, none⟩] }

def shadowing : Program where
  functions := .ofList [("f", shadower)]
  globals := .ofList ["G", "H"]
  malformed := ∅

theorem shadowing_wellKeyed : shadowing.WellKeyed := Program.wellKeyed_of_all (by decide +kernel)

theorem spares_shadowing {name : String} (h : name = "G" ∨ name = "H") : shadowing.Spares name := by
  refine Program.spares_of_all ?_
  rcases h with rfl | rfl <;> decide +kernel

theorem redefines_shadower : shadower.Redefines shadowing.globals "G" := by
  have hshadows : shadower.Shadows "G" := ⟨"f::param:0", by decide +kernel, by decide⟩
  have hends : shadower.Ends :=
    ⟨"end", { Node.bare .ret [] with operands := ["G", "H"] }, ⟨[], .entry⟩, by decide +kernel, Or.inl rfl⟩
  exact ⟨by decide +kernel, Or.inl ⟨hshadows, hends⟩⟩

theorem not_redefines_shadower : ¬ shadower.Redefines shadowing.globals "H" := by
  refine Function.not_redefines_of_not_isPassed ?_ (by decide)
  rintro (⟨param, hparam, he⟩ | he)
  · rw [List.mem_singleton.1 hparam] at he
    revert he
    decide
  · cases he

theorem eq_shadower {id : String} {f : Function} (hf : shadowing.functions.get? id = some f) :
    f = shadower := by
  have hall : ∀ entry ∈ shadowing.functions.entries, entry.2 = shadower := by decide +kernel
  exact hall (id, f) (Table.mem_entries_iff.2 hf)

def outsideIdentity : Identity := ⟨.singleton .networkParameter, none, ∅⟩

/-- What comes out for the program: the summary defines the global, and the table has an entry for it. -/
theorem exists_run_shadowing : ∃ res left c s a,
    (Resolver.ofProgram shadowing (.empty ∅) ⟨10, 5⟩ ∅).resolve .unlimited = .ok (res, left) ∧
      (ConcretePass.ofResolution shadowing (.empty ∅) res ⟨10, 5⟩).run .unlimited = .ok c ∧
      res.summaries.get? "f" = some s ∧ s.unknown = false ∧ "f" ∉ res.reused ∧
      c.analyses.get? "f" = some a ∧ a.exit.Carries (.text "G") outsideIdentity ∧
      s.exitDefs.get? (globalMarker "G") = some (.singleton "f::param:0") ∧
      c.globals.contains (.text "G") = true := by
  obtain ⟨⟨res, left⟩, hres, hfound⟩ := Result.exists_ok_of_any
    (r := (Resolver.ofProgram shadowing (.empty ∅) ⟨10, 5⟩ ∅).resolve .unlimited)
    (p := fun result => decide ("f" ∉ result.1.reused) &&
      (result.1.summaries.get? "f").any (fun (s : Summary) => decide (s.unknown = false ∧
        s.exitDefs.get? (globalMarker "G") = some (.singleton "f::param:0"))) &&
      ((ConcretePass.ofResolution shadowing (.empty ∅) result.1 ⟨10, 5⟩).run .unlimited).toOption.any
        (fun (c : ConcreteState) => c.globals.contains (.text "G") && (c.analyses.get? "f").any (fun a =>
          (a.exit.taintOf (some (.text "G"))).has outsideIdentity)))
    (by decide +kernel)
  rw [Bool.and_eq_true, Bool.and_eq_true] at hfound
  obtain ⟨⟨hreused, hsummary⟩, hruns⟩ := hfound
  obtain ⟨s, hs, hsummary⟩ := (Option.any_eq_true _ _).1 hsummary
  obtain ⟨hknown, hdefines⟩ := of_decide_eq_true hsummary
  obtain ⟨c, hrun, htable⟩ := Result.exists_ok_of_any hruns
  rw [Bool.and_eq_true] at htable
  obtain ⟨hentry, hanalysis⟩ := htable
  obtain ⟨a, ha, hi⟩ := (Option.any_eq_true _ _).1 hanalysis
  exact ⟨res, left, c, s, a, hres, hrun, hs, hknown, of_decide_eq_true hreused, ha, hi, hdefines, hentry⟩

/-- The function redefines `G`, so its summary outputs `G` and the table holds what the parameter carries.
It does not redefine `H`, which is left alone. -/
theorem spared_unless_redefined_shadowing : ∃ res left c s,
    (Resolver.ofProgram shadowing (.empty ∅) ⟨10, 5⟩ ∅).resolve .unlimited = .ok (res, left) ∧
      (ConcretePass.ofResolution shadowing (.empty ∅) res ⟨10, 5⟩).run .unlimited = .ok c ∧
      res.summaries.get? "f" = some s ∧
      s.toEffect.Outputs "G" ∧ c.GlobalHolds (.text "G") outsideIdentity ∧
      ¬ s.toEffect.Outputs "H" ∧ c.globals.get? (.text "H") = none := by
  obtain ⟨res, left, c, s, a, hres, hrun, hs, hknown, hreused, ha, hi, -⟩ := exists_run_shadowing
  have hf : shadowing.functions.get? "f" = some shadower := by decide +kernel
  have hnone : ∀ id f, shadowing.functions.get? id = some f → ¬ f.Redefines shadowing.globals "H" :=
    fun id f hf => eq_shadower hf ▸ not_redefines_shadower
  obtain ⟨-, hredefined⟩ := ConcretePass.spared_unless_redefined shadowing (.empty ∅) ⟨10, 5⟩ ∅
    shadowing_wellKeyed .unlimited left res hres "G" (spares_shadowing (Or.inl rfl)) (fun _ _ h => by cases h)
  obtain ⟨hsummary, hpass⟩ := hredefined "f" shadower hf redefines_shadower
  obtain ⟨hspared, -⟩ := ConcretePass.spared_unless_redefined shadowing (.empty ∅) ⟨10, 5⟩ ∅
    shadowing_wellKeyed .unlimited left res hres "H" (spares_shadowing (Or.inr rfl)) (fun _ _ h => by cases h)
  obtain ⟨hnowhere, hempty⟩ := hspared hnone
  exact ⟨res, left, c, s, hres, hrun, hs, hsummary s hs hknown hreused,
    hpass ⟨10, 5⟩ .unlimited c hrun a outsideIdentity ha hi, hnowhere "f" s hs,
    hempty ⟨10, 5⟩ .unlimited c hrun⟩

/-- **A parameter that is called like a global passes for a write.**  No node has the global for a target and
no call passes it, and yet the summary outputs it and the table of the pass has an entry for it. -/
theorem not_spared_shadowing : "G" ∈ shadowing.globals ∧ shadowing.Spares "G" ∧ ∃ res left c s taint,
    (Resolver.ofProgram shadowing (.empty ∅) ⟨10, 5⟩ ∅).resolve .unlimited = .ok (res, left) ∧
      (ConcretePass.ofResolution shadowing (.empty ∅) res ⟨10, 5⟩).run .unlimited = .ok c ∧
      res.summaries.get? "f" = some s ∧ s.toEffect.Outputs "G" ∧
      c.globals.get? (.text "G") = some taint := by
  obtain ⟨res, left, c, s, a, hres, hrun, hs, -, -, -, -, hdefines, hentry⟩ := exists_run_shadowing
  obtain ⟨taint, htaint⟩ := Option.isSome_iff_exists.1 hentry
  exact ⟨by decide +kernel, spares_shadowing (Or.inl rfl), res, left, c, s, taint, hres, hrun, hs,
    Or.inr (Or.inr ⟨_, hdefines⟩), htaint⟩

end TaintFlow
