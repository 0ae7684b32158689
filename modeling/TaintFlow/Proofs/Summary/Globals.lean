import TaintFlow.Proofs.Summary.Incremental

/-!
# Resolving a program with other globals

Whether a summary is reused depends on the functions and not on the declared globals.  When only the
globals change, every function from which only functions with a known earlier summary can be reached keeps
its earlier summary, and the globals are not looked at (`resolve_redeclared`).  The summaries are those of
a resolution from nothing where the functions mention the same globals as before, and not in general
(`not_same_redeclared`).
-/

namespace TaintFlow

def Program.withGlobals (p : Program) (globals : Names) : Program := { p with globals := globals }

namespace Resolver

variable {p : Program} {globals : Names} {rules : Registry} {limits : ResolveLimits}
  {previous : NameMap Summary}

/-- **A program with other globals is resolved as if they were the same**, where all that can be reached
from a function has known summaries: the function is reused, with its earlier summary.  Functions that
mention the same globals as before, and reach such functions only, have the summary that a resolution from
nothing gives. -/
theorem resolve_redeclared (p : Program) (globals : Names) (rules : Registry) (limits : ResolveLimits)
    (hkeyed : p.WellKeyed) (hvalid : ∀ id f, p.functions.get? id = some f → f.isValid p.functionIds = true)
    (hread : ∀ id, p.malformed.get? id = none) (allowance left : Allowance) (previous : Resolution)
    (hprevious : (ofProgram p rules limits ∅).resolve allowance = .ok (previous, left))
    (allowance' left' : Allowance) (res : Resolution)
    (hres : (ofProgram (p.withGlobals globals) rules limits previous.summaries).resolve allowance' =
      .ok (res, left')) :
    (∀ id ∈ p.functionIds,
      (id ∈ res.reused ↔ ∀ w, (CallGraph.ofProgram p).callees.Reaches id w →
        ∃ s, previous.summaries.get? w = some s ∧ s.unknown = false) ∧
      (id ∈ res.reused → res.summaries.get? id = previous.summaries.get? id)) ∧
    ∀ allowance'' left'' scratch,
      (ofProgram (p.withGlobals globals) rules limits ∅).resolve allowance'' = .ok (scratch, left'') →
      ∀ id ∈ p.functionIds, (∀ w f, (CallGraph.ofProgram p).callees.Reaches id w →
        p.functions.get? w = some f → f.globalsIn globals = f.globalsIn p.globals) →
          res.summaries.get? id = scratch.summaries.get? id := by
  have h : Rerun p (p.withGlobals globals) rules limits previous.summaries :=
    ⟨hkeyed, hkeyed, fun id _ _ => hread id, hvalid, hread, fun id f g hf hg _ => by
      rw [Option.some.inj (hf.symm.trans hg)], allowance, previous, left, hprevious, rfl⟩
  have hstage := stage_of_resolve h.keyed' hres
  have hall := List.append_nil (CallGraph.ofProgram (p.withGlobals globals)).layers
  refine ⟨fun id hid => ?_, fun allowance'' left'' scratch hscratch id hid hneutral => ?_⟩
  all_goals
    obtain ⟨layer, hlayer, c, hc, hidc⟩ := exists_component (p := p.withGlobals globals) hid
  · have hrecorded := h.recorded_of_stage hall.symm hstage layer hlayer c hc id hidc hid
    refine ⟨hrecorded.reused.trans (forall₂_congr fun w _ => ?_), fun hin =>
      hrecorded.summary (hrecorded.reused.1 hin)⟩
    constructor
    · rintro ⟨-, -, s, -, -, -, -, hs, hknown⟩
      exact ⟨s, hs, hknown⟩
    · rintro ⟨s, hs, hknown⟩
      obtain ⟨-, f, hf, -⟩ := h.summaryOf hs hknown
      exact ⟨f, f, s, hf, hf, rfl, rfl, hs, hknown⟩
  · exact h.same_of_stage hall.symm (stage_of_resolve h.keyed' hscratch) hstage layer hlayer c hc id hidc
      hid fun w hw g hg => hneutral w g hw hg

end Resolver

/-! ### A global that is declared later -/

/-- Returns what is a global, if it is declared. -/
def reading : Program where
  functions := .ofList [("f", .bare "f" "end" [] [("end", { Node.bare .ret [] with operands := ["G"] })])]
  globals := ∅
  malformed := ∅

theorem reading_wellKeyed : reading.WellKeyed := Program.wellKeyed_of_all (by decide +kernel)

/-- Without the global the function has a known summary, and with it another one. -/
theorem exists_known_reading : ∃ previous left scratch left' s t,
    (Resolver.ofProgram reading (.empty ∅) ⟨10, 5⟩ ∅).resolve .unlimited = .ok (previous, left) ∧
      (Resolver.ofProgram (reading.withGlobals (.ofList ["G"])) (.empty ∅) ⟨10, 5⟩ ∅).resolve .unlimited =
        .ok (scratch, left') ∧
      previous.summaries.get? "f" = some s ∧ scratch.summaries.get? "f" = some t ∧
      s.unknown = false ∧ s.toEffect.same t.toEffect = false := by
  obtain ⟨⟨previous, left⟩, hprevious, h⟩ := Result.exists_ok_of_any
    (r := (Resolver.ofProgram reading (.empty ∅) ⟨10, 5⟩ ∅).resolve .unlimited)
    (p := fun before =>
      ((Resolver.ofProgram (reading.withGlobals (.ofList ["G"])) (.empty ∅) ⟨10, 5⟩ ∅).resolve
        .unlimited).toOption.any (fun after =>
          (before.1.summaries.get? "f").any (fun s => (after.1.summaries.get? "f").any (fun t =>
            !s.unknown && !s.toEffect.same t.toEffect))))
    (by decide +kernel)
  obtain ⟨⟨scratch, left'⟩, hscratch, h⟩ := Result.exists_ok_of_any h
  obtain ⟨s, hs, h⟩ := (Option.any_eq_true _ _).1 h
  obtain ⟨t, ht, h⟩ := (Option.any_eq_true _ _).1 h
  obtain ⟨hunknown, hdiffers⟩ : s.unknown = false ∧ s.toEffect.same t.toEffect = false := by simpa using h
  exact ⟨previous, left, scratch, left', s, t, hprevious, hscratch, hs, ht, hunknown, hdiffers⟩

/-- The summary from before the global was declared is reused. -/
theorem resolve_reading {previous : Resolution} {left : Allowance} {s : Summary}
    (hprevious : (Resolver.ofProgram reading (.empty ∅) ⟨10, 5⟩ ∅).resolve .unlimited =
      .ok (previous, left))
    (hs : previous.summaries.get? "f" = some s) (hknown : s.unknown = false) :
    ∃ res, (Resolver.ofProgram (reading.withGlobals (.ofList ["G"])) (.empty ∅) ⟨10, 5⟩
        previous.summaries).resolve .unlimited = .ok (res, .unlimited) ∧
      res.summaries.get? "f" = some s := by
  let r := Resolver.ofProgram (reading.withGlobals (.ofList ["G"])) (.empty ∅) ⟨10, 5⟩ previous.summaries
  let c : Names := .ofList ["f"]
  have hmem : ∀ {id : String}, id ∈ c → id = "f" := fun hid =>
    List.mem_singleton.1 (OrderedSet.mem_ofList.1 hid)
  have hedges : ((CallGraph.ofProgram reading).callees.successors "f").toList = [] := by decide +kernel
  have htake : r.takesOver r.initial c = true := by
    refine Resolver.takesOver_of_unchanged reading_wellKeyed hprevious (fun _ _ => rfl) ?_ ?_ _
    · intro id hid
      rw [hmem hid]
      exact ⟨s, hs, hknown⟩
    · intro id hid callee hedge
      rw [hmem hid, Graph.Edge, OrderedSet.mem_def, hedges] at hedge
      exact absurd hedge List.not_mem_nil
  have hvalid : "f" ∈ r.valid := by
    have : "f" ∈ Resolver.validFunctions reading := by decide +kernel
    exact this
  have hf : "f" ∈ c := OrderedSet.mem_ofList.2 (List.mem_singleton_self _)
  refine ⟨r.base r.initial [c], ?_, ?_⟩
  · exact Resolver.resolve_of_takesOver (by decide +kernel) (by decide +kernel) htake
  · exact (Resolver.inherits_base (List.mem_singleton_self c) hf ⟨⟨"f", hf, hvalid⟩, htake⟩).summary.trans hs

/-- **A global that is declared later goes unnoticed.**  The reused summary does not say that the function
returns what the global holds; the summary of a resolution from nothing does. -/
theorem not_same_redeclared : ∃ previous left res scratch left' s t,
    (Resolver.ofProgram reading (.empty ∅) ⟨10, 5⟩ ∅).resolve .unlimited = .ok (previous, left) ∧
      (Resolver.ofProgram (reading.withGlobals (.ofList ["G"])) (.empty ∅) ⟨10, 5⟩
        previous.summaries).resolve .unlimited = .ok (res, .unlimited) ∧
      (Resolver.ofProgram (reading.withGlobals (.ofList ["G"])) (.empty ∅) ⟨10, 5⟩ ∅).resolve
        .unlimited = .ok (scratch, left') ∧
      res.summaries.get? "f" = some s ∧ scratch.summaries.get? "f" = some t ∧
      s.toEffect.same t.toEffect = false := by
  obtain ⟨previous, left, scratch, left', s, t, hprevious, hscratch, hs, ht, hknown, hdiffers⟩ :=
    exists_known_reading
  obtain ⟨res, hres, hsame⟩ := resolve_reading hprevious hs hknown
  exact ⟨previous, left, res, scratch, left', s, t, hprevious, hres, hscratch, hsame, ht, hdiffers⟩

/-- The function is reused because its earlier summary is known. -/
theorem resolve_redeclared_reading : ∃ previous left res,
    (Resolver.ofProgram reading (.empty ∅) ⟨10, 5⟩ ∅).resolve .unlimited = .ok (previous, left) ∧
      (Resolver.ofProgram (reading.withGlobals (.ofList ["G"])) (.empty ∅) ⟨10, 5⟩
        previous.summaries).resolve .unlimited = .ok (res, .unlimited) ∧
      (("f" ∈ res.reused ↔ ∀ w, (CallGraph.ofProgram reading).callees.Reaches "f" w →
        ∃ s, previous.summaries.get? w = some s ∧ s.unknown = false) ∧
      ("f" ∈ res.reused → res.summaries.get? "f" = previous.summaries.get? "f")) := by
  obtain ⟨previous, left, -, -, s, -, hprevious, -, hs, -, hknown, -⟩ := exists_known_reading
  obtain ⟨res, hres, -⟩ := resolve_reading hprevious hs hknown
  have hvalid : ∀ entry ∈ reading.functions.entries, entry.2.isValid reading.functionIds = true := by
    decide +kernel
  exact ⟨previous, left, res, hprevious, hres, (Resolver.resolve_redeclared reading (.ofList ["G"])
    (.empty ∅) ⟨10, 5⟩ reading_wellKeyed (fun id f hf => hvalid (id, f) (Table.mem_entries_iff.2 hf))
    (fun _ => rfl) .unlimited left previous hprevious .unlimited .unlimited res hres).1 "f"
      (by decide +kernel)⟩

end TaintFlow
