import TaintFlow.Proofs.Concrete.Coverage
import TaintFlow.Proofs.Summary.Faults

/-!
# What can stop a pass

A pass analyses functions with usable summaries only.  Where these summaries can be relied on, each such
function is one that control does not leave by an edge into nothing, so a pass that is not cancelled stops
only when the budget of a function, or the number of rounds that a function has used up, cannot be shown
(`ConcretePass.yields_run`).
-/

namespace TaintFlow

namespace ConcretePass

variable {p : ConcretePass} {c : ConcreteState} {id : String}

theorem isUsable_of_mem_entries (h : id ∈ p.entries) : p.isUsable id = true := by
  unfold entries at h
  dsimp only at h
  split at h
  · exact isUsable_of_subset (fun entry he => (List.mem_filter.1 he).1) (mem_inOrder.1 h)
  · split at h
    · exact isUsable_of_subset (List.Subset.refl _) (of_decide_eq_true (List.mem_filter.1 h).2)
    · exact isUsable_of_subset (List.Subset.refl _) (mem_inOrder.1 h)

theorem Reached.isUsable {analyses : Table Analysis} (h : p.Reached analyses id) :
    p.isUsable id = true := by
  cases h with
  | entry h => exact isUsable_of_mem_entries h
  | call _ _ _ hcall => exact hcall.1

/-- What is known before a program is analysed with concrete taint. -/
structure Prepared (p : ConcretePass) : Prop where
  keyed : p.program.WellKeyed
  named : p.program.Named
  backs : p.program.Backs p.summaries

theorem Prepared.closed (h : p.Prepared) (husable : p.isUsable id = true) :
    ∃ f, p.program.functions.get? id = some f ∧ f.Closed := by
  unfold ConcretePass.isUsable at husable
  split at husable
  · next s hs =>
    obtain ⟨f, hf, hclosed, -⟩ := (h.backs id s hs).closed (by simpa using husable)
    exact ⟨f, hf, hclosed⟩
  · cases husable

theorem yields_runOne (h : p.Prepared) (husable : p.isUsable id = true) :
    Result.Yields (p.program.Excuse p.limits.maxVisits) (fun _ => True) (p.runOne c id) := by
  obtain ⟨f, hf, hclosed⟩ := h.closed husable
  have hnamed : (p.frame f).function.Named := h.named id f hf
  have happlies : (p.frame f).Applies := by
    intro callee e he
    obtain ⟨s, hs, rfl⟩ := Option.map_eq_some_iff.1 he
    exact (h.backs callee s hs).applicable
  have hyields := Frame.yields_analyze hnamed hclosed happlies p.limits.maxVisits
  unfold runOne
  split
  · trivial
  · rw [hf]
    dsimp only
    split
    · trivial
    · next fault hfault =>
      have hexcuse := hyields (p.inputs { c with runs := c.runs.set id (c.runsOf id + 1) } f)
      rw [hfault] at hexcuse
      split
      · trivial
      · next hlocal =>
        obtain ⟨he, hbudget⟩ := hexcuse.resolve_left hlocal
        exact ⟨he, f, ⟨id, hf⟩, hbudget⟩

theorem yields_loop (h : p.Prepared) (fuel : Nat)
    (hc : Relation.ReflTransGen p.Pops (.start p.entries) c) :
    Result.Yields (p.program.Excuse p.limits.maxVisits) (fun _ => True)
      (p.loop fuel c .unlimited) := by
  induction fuel generalizing c with
  | zero => trivial
  | succ fuel ih =>
    unfold loop
    split
    · trivial
    · next id queue hqueue =>
      have hid : id ∈ c.queue := hqueue ▸ List.mem_cons_self
      have husable := ((onlyReached_of_pops h.keyed hc).queued id hid).isUsable
      have hgoes : Result.Yields (p.program.Excuse p.limits.maxVisits)
          (fun allowance => allowance = .unlimited) (Allowance.unlimited.check .concrete) := rfl
      refine hgoes.bind ?_
      rintro _ rfl
      refine (yields_runOne h husable).and_eq.bind fun next hnext => ih (hc.tail ⟨id, hid, ?_⟩)
      rw [hqueue, List.erase_cons_head]
      exact hnext.2

/-- What can stop a pass that is not cancelled: the budget of a function cannot be shown, or a function has
used up its rounds and their number cannot be shown. -/
def Excuse (p : ConcretePass) (fault : Fault) : Prop :=
  p.program.Excuse p.limits.maxVisits fault ∨
    fault = .invalid .unshowable ∧ Nat.pow 10 digitLimit ≤ p.limits.maxRounds ∧
      ∃ c, p.Completes c ∧ ∃ id, id ∈ c.truncated

/-- **A pass that is not cancelled stops only when a budget cannot be shown.** -/
theorem yields_run (h : p.Prepared) :
    Result.Yields p.Excuse (fun c => p.Completes c) (p.run .unlimited) := by
  refine ((yields_loop h p.fuel .refl).mono fun _ => Or.inl).and_eq.bind fun c hc => ?_
  have hcompletes := completes_of_loop h.keyed p.invariant_start p.capacity_start hc.2
  rw [finish_eq]
  split
  · exact hcompletes
  · next hnot =>
    obtain ⟨hsome, hdigits⟩ := not_or.1 hnot
    obtain ⟨id, hid⟩ := OrderedSet.isEmpty_eq_false_iff.1 (Bool.eq_false_of_not_eq_true hsome)
    exact Or.inr ⟨rfl, Nat.not_lt.1 hdigits, c, hcompletes, id, hid⟩

end ConcretePass

end TaintFlow
