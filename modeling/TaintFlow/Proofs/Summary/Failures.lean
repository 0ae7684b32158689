import TaintFlow.Proofs.Summary.Reuse

/-!
# Functions that fail

A function that cannot be read or has a defect fails before the first layer, and its summary is unknown.
A component with such a member can still be taken over as a whole, and a function that was read as well
as refused can still be summarised; both put a known summary over the unknown one, and the failure stays
on record (`unmasked_iff`).  Nothing else hides a failure.
-/

namespace TaintFlow

namespace Resolver

variable {r : Resolver} {res : Resolution} {c : Names} {id : String}

theorem recorded_initial_iff : r.initial.failures.contains id = true ↔ r.Unfit id := by
  rw [(failing_initial r).recorded]
  constructor
  · rintro ⟨s, hs⟩
    exact (failsOnly_initial r id s hs).2
  · intro h
    obtain ⟨s, hs, -⟩ := failed_initial h
    exact ⟨s, hs⟩

/-! ### The end of a resolution -/

/-- What is published for a function whose component is settled, and what is on record. -/
theorem published_of_settled (h : r.Settled res c) (hvalid : r.valid = validFunctions r.program)
    (hid : id ∈ c) (hknown : id ∈ r.program.functionIds) :
    ∃ s, res.summaries.get? id = some s ∧
      (res.failures.contains id = true ↔ s.unknown = true ∨ r.Unfit id) ∧
      (id ∈ res.reused → s.unknown = false) ∧
      (id ∉ res.reused → id ∉ r.valid → s.unknown = true) := by
  have hnone : id ∉ r.initial.reused := by
    rw [(failing_initial r).reused]
    exact OrderedSet.not_mem_empty id
  rcases h with ⟨⟨-, htake⟩, hinherits⟩ | ⟨-, table, -, -, results, -, hspec, hpublished, hrest⟩
  · -- taken over: the summary is known, and the record is that of the start
    obtain ⟨f, old, -, hold, hunknown, -⟩ := canReuse_iff.1 (takesOver_iff.1 htake id hid)
    have hin := hinherits id hid
    refine ⟨old, hin.summary.trans hold, ?_, fun _ => hunknown, fun hnot => absurd hin.reused hnot⟩
    rw [OrderedMap.contains, hin.failure, ← OrderedMap.contains, recorded_initial_iff, hunknown]
    simp
  · by_cases hv : id ∈ r.valid
    · obtain ⟨s, hs, rfl⟩ := hspec.complete id (mem_membersOf_iff.2 ⟨hid, hv⟩)
      have hp := hpublished s hs
      refine ⟨s, hp.summary, ?_, fun hr => absurd (hp.reused.1 hr) hnone, fun _ hnot => absurd hv hnot⟩
      rw [OrderedMap.contains, hp.failure, ← recorded_initial_iff, OrderedMap.contains]
      cases s.unknown <;> simp
    · have hsame := hrest id hid hv
      have hunfit := unfit_of_not_mem_valid hvalid hknown hv
      obtain ⟨s, hs, hunknown⟩ := failed_initial hunfit
      refine ⟨s, hsame.summary.trans hs, ?_, fun hr => absurd (hsame.reused.1 hr) hnone, fun _ _ => hunknown⟩
      rw [OrderedMap.contains, hsame.failure, ← OrderedMap.contains, recorded_initial_iff]
      exact ⟨Or.inr, fun _ => hunfit⟩

/-- A function that is unfit has an unknown summary, and a function has an unknown summary exactly when
its failure is on record. -/
def Unmasked (r : Resolver) (res : Resolution) (id : String) : Prop :=
  ∃ s, res.summaries.get? id = some s ∧ (r.Unfit id → s.unknown = true) ∧
    (s.unknown = true ↔ res.failures.contains id = true)

/-- **Which failures are hidden.**  When a resolution ends, every function has a summary, and one that is
unknown is on record as failed.  An unfit function keeps its unknown summary, and the record agrees with
the summaries, except where an unfit function was reused, or is valid all the same (it was read as well
as refused) and was summarised. -/
theorem unmasked_iff (p : Program) (rules : Registry) (limits : ResolveLimits)
    (previous : NameMap Summary) (hkeyed : p.WellKeyed) (allowance left : Allowance) (res : Resolution)
    (h : (ofProgram p rules limits previous).resolve allowance = .ok (res, left)) :
    ∀ id ∈ p.functionIds, ∃ s, res.summaries.get? id = some s ∧
      (s.unknown = true → res.failures.contains id = true) ∧
      ((ofProgram p rules limits previous).Unmasked res id ↔
        ¬ ((ofProgram p rules limits previous).Unfit id ∧
          (id ∈ res.reused ∨ (id ∈ validFunctions p ∧ s.unknown = false)))) := by
  intro id hid
  obtain ⟨layer, hlayer, c, hc, hidc⟩ := exists_component hid
  obtain ⟨s, hs, hrecord, hreused, hrest⟩ :=
    published_of_settled ((stage_of_resolve hkeyed h).settled layer hlayer c hc) rfl hidc hid
  refine ⟨s, hs, fun hunknown => hrecord.2 (Or.inl hunknown), ?_⟩
  constructor
  · rintro ⟨t, ht, hunfit, -⟩ ⟨hu, hmasked⟩
    obtain rfl : s = t := Option.some.inj (hs.symm.trans ht)
    have hunknown := hunfit hu
    rcases hmasked with hin | ⟨-, hknown⟩
    · rw [hreused hin] at hunknown
      cases hunknown
    · rw [hknown] at hunknown
      cases hunknown
  · intro hnot
    have hunfit : (ofProgram p rules limits previous).Unfit id → s.unknown = true := by
      intro hu
      by_contra hknown
      rw [Bool.not_eq_true] at hknown
      by_cases hv : id ∈ validFunctions p
      · exact hnot ⟨hu, Or.inr ⟨hv, hknown⟩⟩
      · by_cases hin : id ∈ res.reused
        · exact hnot ⟨hu, Or.inl hin⟩
        · have := hrest hin hv
          rw [hknown] at this
          cases this
    exact ⟨s, hs, hunfit, ⟨fun hunknown => hrecord.2 (Or.inl hunknown),
      fun hin => (hrecord.1 hin).elim (fun hunknown => hunknown) hunfit⟩⟩

end Resolver

/-! ### A failure that is hidden -/

def caller : Function :=
  .bare "f" "call" [] [("call", { Node.bare .call [] with callee := .text "g" })]

def chooser : Function :=
  .bare "g" "back" []
    [("back", { Node.bare .call ["ask"] with callee := .text "f" }),
      ("ask", { Node.bare .call [] with callee := .text "h" })]

/-- Two functions that call each other, and a third one that the second of them calls. -/
def supplied : Program where
  functions := .ofList [("f", caller), ("g", chooser), ("h", .bare "h" "end" [] [("end", .bare .ret [])])]
  globals := ∅
  malformed := ∅

/-- Without the third function the call of it is dangling. -/
def dangling : Program where
  functions := .ofList [("f", caller), ("g", chooser)]
  globals := ∅
  malformed := ∅

theorem supplied_wellKeyed : supplied.WellKeyed := Program.wellKeyed_of_all (by decide +kernel)

theorem dangling_wellKeyed : dangling.WellKeyed := Program.wellKeyed_of_all (by decide +kernel)

/-- Both functions are known while the third one is there. -/
theorem exists_known_supplied : ∃ res left,
    (Resolver.ofProgram supplied (.empty ∅) ⟨10, 5⟩ ∅).resolve .unlimited = .ok (res, left) ∧
      ∀ id ∈ ["f", "g"], ∃ s, res.summaries.get? id = some s ∧ s.unknown = false := by
  obtain ⟨⟨res, left⟩, hres, hknown⟩ := Result.exists_ok_of_any
    (r := (Resolver.ofProgram supplied (.empty ∅) ⟨10, 5⟩ ∅).resolve .unlimited)
    (p := fun result => ["f", "g"].all (fun id =>
      (result.1.summaries.get? id).any (fun s => !s.unknown)))
    (by decide +kernel)
  refine ⟨res, left, hres, fun id hid => ?_⟩
  obtain ⟨s, hs, hs'⟩ := (Option.any_eq_true _ _).1 (List.all_eq_true.1 hknown id hid)
  exact ⟨s, hs, by simpa using hs'⟩

/-- Both are taken over when the third one is gone, although the second one has a defect then. -/
theorem resolve_dangling {previous : Resolution} {left : Allowance}
    (hprevious : (Resolver.ofProgram supplied (.empty ∅) ⟨10, 5⟩ ∅).resolve .unlimited =
      .ok (previous, left))
    (hknown : ∀ id ∈ ["f", "g"], ∃ s, previous.summaries.get? id = some s ∧ s.unknown = false) :
    ∃ res, (Resolver.ofProgram dangling (.empty ∅) ⟨10, 5⟩ previous.summaries).resolve .unlimited =
        .ok (res, .unlimited) ∧
      ∀ id ∈ ["f", "g"], id ∈ res.reused := by
  let r := Resolver.ofProgram dangling (.empty ∅) ⟨10, 5⟩ previous.summaries
  let c : Names := .ofList ["f", "g"]
  have hall : ∀ id ∈ ["f", "g"], dangling.functions.get? id = supplied.functions.get? id ∧
      ∀ callee ∈ ((CallGraph.ofProgram dangling).callees.successors id).toList,
        callee ∈ OrderedSet.ofList ["f", "g"] := by decide +kernel
  have htake : r.takesOver r.initial c = true :=
    Resolver.takesOver_of_unchanged supplied_wellKeyed hprevious
      (fun id hid => (hall id (OrderedSet.mem_ofList.1 hid)).1)
      (fun id hid => hknown id (OrderedSet.mem_ofList.1 hid))
      (fun id hid callee hedge => (hall id (OrderedSet.mem_ofList.1 hid)).2 callee hedge) _
  have hvalid : "f" ∈ r.valid := by
    have : "f" ∈ Resolver.validFunctions dangling := by decide +kernel
    exact this
  have hinherited : r.Inherited r.initial c :=
    ⟨⟨"f", OrderedSet.mem_ofList.2 (by decide), hvalid⟩, htake⟩
  refine ⟨r.base r.initial [c], ?_, fun id hid => ?_⟩
  · exact Resolver.resolve_of_takesOver (by decide +kernel) (by decide +kernel) htake
  · exact (Resolver.inherits_base (List.mem_singleton_self c) (OrderedSet.mem_ofList.2 hid)
      hinherited).reused

/-- **A known summary of a function that has a defect.**  The failure is on record all the same. -/
theorem not_unmasked_dangling : ∃ previous left res,
    (Resolver.ofProgram supplied (.empty ∅) ⟨10, 5⟩ ∅).resolve .unlimited = .ok (previous, left) ∧
      (Resolver.ofProgram dangling (.empty ∅) ⟨10, 5⟩ previous.summaries).resolve .unlimited =
        .ok (res, .unlimited) ∧
      (Resolver.ofProgram dangling (.empty ∅) ⟨10, 5⟩ previous.summaries).Unfit "g" ∧
      (∃ s, res.summaries.get? "g" = some s ∧ s.unknown = false) ∧
      res.failures.contains "g" = true ∧
      ¬ (Resolver.ofProgram dangling (.empty ∅) ⟨10, 5⟩ previous.summaries).Unmasked res "g" := by
  obtain ⟨previous, left, hprevious, hknown⟩ := exists_known_supplied
  obtain ⟨res, hres, hreused⟩ := resolve_dangling hprevious hknown
  have hunfit : (Resolver.ofProgram dangling (.empty ∅) ⟨10, 5⟩ previous.summaries).Unfit "g" := by
    have hdefect : (dangling.functions.get? "g").any
        (fun f => (f.defect? dangling.functionIds).isSome) = true := by decide +kernel
    obtain ⟨f, hf, hf'⟩ := (Option.any_eq_true _ _).1 hdefect
    exact Or.inr ⟨f, hf, Option.isSome_iff_ne_none.1 hf'⟩
  have hid : "g" ∈ dangling.functionIds := by decide +kernel
  obtain ⟨layer, hlayer, c, hc, hidc⟩ := Resolver.exists_component hid
  obtain ⟨s, hs, hrecord, hin, -⟩ := Resolver.published_of_settled
    ((Resolver.stage_of_resolve dangling_wellKeyed hres).settled layer hlayer c hc) rfl hidc hid
  have hunknown := hin (hreused "g" (by decide))
  refine ⟨previous, left, res, hprevious, hres, hunfit, ⟨s, hs, hunknown⟩,
    hrecord.2 (Or.inr hunfit), ?_⟩
  rintro ⟨t, ht, hfails, -⟩
  obtain rfl : s = t := Option.some.inj (hs.symm.trans ht)
  rw [hfails hunfit] at hunknown
  cases hunknown

/-- The failure of the second function is hidden because it was reused. -/
theorem unmasked_iff_dangling : ∃ previous left res,
    (Resolver.ofProgram supplied (.empty ∅) ⟨10, 5⟩ ∅).resolve .unlimited = .ok (previous, left) ∧
      (Resolver.ofProgram dangling (.empty ∅) ⟨10, 5⟩ previous.summaries).resolve .unlimited =
        .ok (res, .unlimited) ∧
      "g" ∈ res.reused ∧
      ∃ s, res.summaries.get? "g" = some s ∧
        (s.unknown = true → res.failures.contains "g" = true) ∧
        ((Resolver.ofProgram dangling (.empty ∅) ⟨10, 5⟩ previous.summaries).Unmasked res "g" ↔
          ¬ ((Resolver.ofProgram dangling (.empty ∅) ⟨10, 5⟩ previous.summaries).Unfit "g" ∧
            ("g" ∈ res.reused ∨ ("g" ∈ Resolver.validFunctions dangling ∧ s.unknown = false)))) := by
  obtain ⟨previous, left, hprevious, hknown⟩ := exists_known_supplied
  obtain ⟨res, hres, hreused⟩ := resolve_dangling hprevious hknown
  exact ⟨previous, left, res, hprevious, hres, hreused "g" (by decide),
    Resolver.unmasked_iff dangling (.empty ∅) ⟨10, 5⟩ previous.summaries dangling_wellKeyed .unlimited
      .unlimited res hres "g" (by decide +kernel)⟩

end TaintFlow
