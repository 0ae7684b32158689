import TaintFlow.Proofs.Summary.Incremental
import TaintFlow.Proofs.Summary.Jobs
import TaintFlow.Proofs.Summary.Unending

/-!
# A larger budget of rounds

Rounds that have settled are not changed by more of them, and a component that has not settled within its
budget fails; so with another budget a known summary can only be lost, not changed.  The exception is a
budget of one round: what a recursive component comes to in its only round is published as it is, settled
or not.  A summary lasts (`Resolver.Lasting`) if summarising its function once more would not change it,
and those that a larger budget leaves alone are those that last (`resolve_raised`).
-/

namespace TaintFlow

namespace Resolver

variable {r : Resolver} {published provisional next table : NameMap Summary} {members : List String}
  {c : Names} {res res' : Resolution} {id : String}

/-! ### More rounds -/

theorem refine_of_settles (h : r.Settles published provisional id) (changed : Bool) :
    r.refine published (provisional, changed) id = .ok (provisional, changed) := by
  cases hf : r.program.functions.get? id with
  | none =>
    unfold refine
    simp only [hf]
    rfl
  | some f =>
    obtain ⟨s, hs, hcase⟩ := h f hf
    unfold refine
    simp only [hf, hs, Option.any_some]
    rcases hcase with hunknown | ⟨new, hnew, hsame⟩
    · rw [if_pos hunknown]
      rfl
    · have hnew : r.summarize (fun id => (provisional.get? id).or (published.get? id)) f = .ok new := hnew
      split
      · rfl
      · rw [hnew, Result.ok_bind, if_pos hsame]
        rfl

theorem round_of_settles {ids : List String} (h : ∀ id ∈ ids, r.Settles published provisional id)
    (changed : Bool) :
    ids.foldlM (r.refine published) (provisional, changed) = .ok (provisional, changed) := by
  induction ids with
  | nil => rfl
  | cons id rest ih =>
    rw [List.foldlM_cons, refine_of_settles (h id List.mem_cons_self), Result.ok_bind]
    exact ih fun other hother => h other (List.mem_cons_of_mem id hother)

theorem rounds_of_settles (h : ∀ id ∈ members, r.Settles published provisional id) {n : Nat} (hn : 0 < n) :
    r.rounds published members n provisional = .ok (provisional, true) := by
  obtain ⟨k, rfl⟩ := Nat.exists_eq_add_of_lt hn
  rw [rounds, round_of_settles h, Result.ok_bind]
  rfl

theorem rounds_add {n : Nat} (k : Nat)
    (h : r.rounds published members n provisional = .ok (next, false)) :
    r.rounds published members (n + k) provisional = r.rounds published members k next := by
  induction n generalizing provisional with
  | zero =>
    cases h
    rw [Nat.zero_add]
  | succ n ih =>
    rw [rounds] at h
    obtain ⟨⟨mid, changed⟩, hround, h⟩ := Result.exists_of_bind_eq_ok h
    rw [Nat.add_right_comm, rounds, hround, Result.ok_bind]
    cases changed with
    | true => exact ih h
    | false => cases h

/-- Rounds that have settled stay as they are. -/
theorem rounds_add_of_settled {n : Nat} (k : Nat)
    (h : r.rounds published members n provisional = .ok (next, true)) :
    r.rounds published members (n + k) provisional = .ok (next, true) := by
  induction n generalizing provisional with
  | zero => cases h
  | succ n ih =>
    rw [rounds] at h
    obtain ⟨⟨mid, changed⟩, hround, h⟩ := Result.exists_of_bind_eq_ok h
    rw [Nat.add_right_comm, rounds, hround, Result.ok_bind]
    cases changed with
    | true => exact ih h
    | false => exact h

/-- Once every summary holds, the rounds that follow find nothing to change. -/
theorem rounds_of_lt {n m : Nat} {settled : Bool}
    (h : r.rounds published members n provisional = .ok (next, settled))
    (hsettles : ∀ id ∈ members, r.Settles published next id) (hlt : n < m) :
    r.rounds published members m provisional = .ok (next, true) := by
  obtain ⟨k, rfl⟩ := Nat.exists_eq_add_of_lt hlt
  rw [Nat.add_assoc]
  cases settled with
  | true => exact rounds_add_of_settled _ h
  | false => exact (rounds_add _ h).trans (rounds_of_settles hsettles k.succ_pos)

/-! ### One component -/

/-- The budget is for recursive components. -/
theorem summarizeComponent_withRounds_of_not_recursive (hrecursive : r.graph.isRecursive c = false)
    (budget : Int) : (r.withRounds budget).summarizeComponent published c =
      r.summarizeComponent published c := by
  have hbudget : ∀ budget, (r.withRounds budget).budgetOf c = 1 := fun budget =>
    if_neg (show ¬ r.graph.isRecursive c = true by simp [hrecursive])
  have hmembers : (r.withRounds budget).membersOf c = r.membersOf c := rfl
  rw [summarizeComponent_eq, summarizeComponent_eq, hbudget, show r.budgetOf c = 1 from hbudget _,
    hmembers, rounds_withRounds]
  simp only [decide_true, Bool.or_true, if_true]

/-- A component with known summaries comes from its rounds, and has settled in them unless there was one
only. -/
theorem rounds_of_known (hvalid : ∀ id ∈ r.valid, ∃ f, r.program.functions.get? id = some f)
    (hrecursive : r.graph.isRecursive c = true) {results : List Summary}
    (h : r.summarizeComponent published c = .ok results) (hknown : ∀ s ∈ results, s.unknown = false)
    (hmember : id ∈ r.membersOf c) :
    ∃ next settled, r.rounds published (r.membersOf c) r.limits.maxRounds.toNat ∅ = .ok (next, settled) ∧
      results = next.values ∧ 0 < r.limits.maxRounds ∧ (r.limits.maxRounds ≠ 1 → settled = true) := by
  have hbudget : r.budgetOf c = r.limits.maxRounds := if_pos hrecursive
  obtain ⟨next, settled, hrounds, h⟩ := results_cases h
  rw [hbudget] at hrounds h
  rcases h with ⟨hdone, rfl⟩ | ⟨-, -, rfl⟩
  · refine ⟨next, settled, hrounds, rfl, ?_, fun hone => hdone.resolve_right hone⟩
    by_contra hzero
    have hnone : r.limits.maxRounds.toNat = 0 := by omega
    rw [hnone, rounds] at hrounds
    cases hrounds
    have hone := hdone.resolve_left Bool.false_ne_true
    omega
  · obtain ⟨f, hf⟩ := hvalid id (mem_membersOf_iff.1 hmember).2
    have hfailed := hknown _ (List.mem_filterMap.2 ⟨id, hmember, congrArg (Option.map _) hf⟩)
    cases hfailed

/-- A recursive component without members that can be analysed comes to nothing, unless it has no rounds and
their number cannot be shown. -/
theorem withRounds_eq_ok_iff_of_membersOf_eq_nil (hrecursive : r.graph.isRecursive c = true)
    (hnone : r.membersOf c = []) {budget : Int} {results : List Summary} :
    (r.withRounds budget).summarizeComponent published c = .ok results ↔
      (0 < budget ∨ budget.natAbs < Nat.pow 10 digitLimit) ∧ [] = results := by
  by_cases hpos : 0 < budget
  · have hrounds : r.rounds published (r.membersOf c) budget.toNat ∅ = .ok (∅, true) := by
      obtain ⟨n, hn⟩ := Nat.exists_eq_succ_of_ne_zero (Nat.pos_iff_ne_zero.1 (Int.pos_iff_toNat_pos.1 hpos))
      rw [hn, hnone]
      rfl
    rw [summarizeComponent_withRounds hrecursive hrounds, Bool.true_or, if_pos rfl, Except.ok.injEq]
    exact (and_iff_right (Or.inl hpos)).symm
  · have hrounds : r.rounds published (r.membersOf c) budget.toNat ∅ = .ok (∅, false) := by
      rw [Int.toNat_of_nonpos (not_lt.1 hpos)]
      rfl
    have hfailed : (r.withRounds budget).failedMembers c = [] := by
      have hmembers : (r.withRounds budget).membersOf c = [] := hnone
      rw [failedMembers, hmembers]
      rfl
    have hone : budget ≠ 1 := by omega
    rw [summarizeComponent_withRounds hrecursive hrounds, Bool.false_or, decide_eq_false hone,
      if_neg Bool.false_ne_true, giveUp_eq_ok_iff, hfailed, or_iff_right hpos]
    rfl

/-- **A component that has settled within its budget comes to the same with a larger one.** -/
theorem summarizeComponent_raised (hvalid : ∀ id ∈ r.valid, ∃ f, r.program.functions.get? id = some f)
    {results : List Summary} (h : r.summarizeComponent published c = .ok results)
    (hknown : ∀ s ∈ results, s.unknown = false)
    (hrounds : r.graph.isRecursive c = true → r.limits.maxRounds ≠ 1) {budget : Int}
    (hle : r.limits.maxRounds ≤ budget) :
    (r.withRounds budget).summarizeComponent published c = .ok results := by
  by_cases hrecursive : r.graph.isRecursive c = true
  · by_cases hsome : ∃ id, id ∈ r.membersOf c
    · obtain ⟨id, hid⟩ := hsome
      obtain ⟨next, settled, hloop, rfl, -, hsettled⟩ := rounds_of_known hvalid hrecursive h hknown hid
      obtain rfl := hsettled (hrounds hrecursive)
      have hmore := rounds_add_of_settled (budget.toNat - r.limits.maxRounds.toNat) hloop
      rw [Nat.add_sub_cancel' (Int.toNat_le_toNat hle)] at hmore
      rw [summarizeComponent_withRounds hrecursive hmore]
      rfl
    · have hnone : r.membersOf c = [] := List.eq_nil_iff_forall_not_mem.2 (not_exists.1 hsome)
      obtain ⟨hshown, hresults⟩ := (withRounds_eq_ok_iff_of_membersOf_eq_nil hrecursive hnone).1
        (show (r.withRounds r.limits.maxRounds).summarizeComponent published c = .ok results from h)
      refine (withRounds_eq_ok_iff_of_membersOf_eq_nil hrecursive hnone).2 ⟨?_, hresults⟩
      generalize Nat.pow 10 digitLimit = limit at hshown ⊢
      omega
  · rw [summarizeComponent_withRounds_of_not_recursive (by simpa using hrecursive), h]

/-- A summary that is known is published for the function. -/
def Known (res : Resolution) (id : String) : Prop :=
  ∃ s, res.summaries.get? id = some s ∧ s.unknown = false

/-- The summary of the function was taken over, or summarising the function once more would not change
it. -/
def Lasting (r : Resolver) (res : Resolution) (id : String) : Prop :=
  id ∈ res.reused ∨ r.Consistent res.summaries id

namespace SummarisedFrom

variable {results : List Summary}

theorem mem_membersOf (h : r.SummarisedFrom table res c results) (hid : id ∈ c) (hknown : Known res id) :
    id ∈ r.membersOf c := by
  refine mem_membersOf_iff.2 ⟨hid, ?_⟩
  by_contra hnot
  obtain ⟨s, hs, hknown⟩ := hknown
  rw [(h.rest id hid hnot).summary] at hs
  have hunknown := (failing_initial r).unknown id s hs
  rw [hknown] at hunknown
  cases hunknown

theorem known_of_mem (h : r.SummarisedFrom table res c results) (hknown : ∀ id ∈ c, Known res id)
    {s : Summary} (hs : s ∈ results) : s.unknown = false := by
  obtain ⟨t, ht, htknown⟩ := hknown _ (mem_membersOf_iff.1 (h.spec.owned s hs).1).1
  obtain rfl : s = t := Option.some.inj ((h.published s hs).summary.symm.trans ht)
  exact htknown

section

variable (hkeyed : r.program.WellKeyed)
  (hvalid : ∀ id ∈ r.valid, ∃ f, r.program.functions.get? id = some f)
  (hedge : ∀ id f, r.program.functions.get? id = some f → ∀ callee,
    f.Calls r.program.functionIds callee → r.graph.callees.Edge id callee)

include hedge in
/-- A known summary is consistent exactly if it held in the table in which it was made. -/
theorem settles_iff_consistent (h : r.SummarisedFrom table res c results) (hresults : results = next.values)
    (hprovides : r.Provides (r.membersOf c) next) {s : Summary} (hs : s ∈ results)
    (hknown : s.unknown = false) :
    r.Settles table next s.function ↔ r.Consistent res.summaries s.function := by
  have hin := (mem_membersOf_iff.1 (h.spec.owned s hs).1).1
  have hpublished := (h.published s hs).summary
  have hnext : next.get? s.function = some s := hprovides.mem_values_iff.1 (hresults ▸ hs)
  have hsame : ∀ f, r.program.functions.get? s.function = some f →
      r.summarize (view table next) f = r.summarize res.summaries.get? f := fun f hf =>
    summarize_congr fun callee hcalls => h.view_eq hresults hprovides hin (hedge _ f hf callee hcalls)
  constructor
  · intro hsettles f t hf ht _
    obtain rfl : s = t := Option.some.inj (hpublished.symm.trans ht)
    obtain ⟨u, hu, hcase⟩ := hsettles f hf
    obtain rfl : s = u := Option.some.inj (hnext.symm.trans hu)
    rcases hcase with hunknown | ⟨new, hnew, hnewSame⟩
    · rw [hknown] at hunknown
      cases hunknown
    · exact ⟨new, (hsame f hf).symm.trans hnew, hnewSame⟩
  · intro hconsistent f hf
    obtain ⟨new, hnew, hnewSame⟩ := hconsistent f s hf hpublished hknown
    exact ⟨s, hnext, Or.inr ⟨new, (hsame f hf).trans hnew, hnewSame⟩⟩

include hkeyed hvalid hedge in
/-- What a component comes to is consistent, unless it is recursive and had one round only. -/
theorem consistent (h : r.SummarisedFrom table res c results) (hknown : ∀ id ∈ c, Known res id)
    (hrounds : r.graph.isRecursive c = true → r.limits.maxRounds ≠ 1) :
    ∀ id ∈ c, r.Consistent res.summaries id := by
  intro id hid
  obtain ⟨s, hs, rfl⟩ := h.spec.complete id (h.mem_membersOf hid (hknown id hid))
  have hsknown := h.known_of_mem hknown hs
  rcases summarizeComponent_cases hvalid (fun id f hf hcalls => hedge id f hf id hcalls) hrounds
      (h.component _ (h.spec.owned s hs).1) with
    ⟨n, next, settled, -, hloop, hsettles, hresults⟩ | ⟨-, hfailed⟩
  · have hprovides := (r.provides_empty (r.membersOf c)).rounds hkeyed hloop
    exact (h.settles_iff_consistent hedge hresults hprovides hs hsknown).1
      (hsettles _ (h.spec.owned s hs).1)
  · rw [hfailed] at hs
    obtain ⟨_, _, _, -, -, rfl⟩ := exists_of_mem_failedMembers hs
    cases hsknown

include hkeyed hvalid hedge in
/-- **More rounds come to the same** if what a component came to is consistent. -/
theorem withRounds (h : r.SummarisedFrom table res c results) (hknown : ∀ id ∈ c, Known res id)
    (hconsistent : ∀ id ∈ c, r.Consistent res.summaries id) {budget : Int}
    (hlt : r.limits.maxRounds < budget) (hid : id ∈ c) :
    (r.withRounds budget).summarizeComponent table c = .ok results := by
  have hcomponent := h.component id (h.mem_membersOf hid (hknown id hid))
  by_cases hrecursive : r.graph.isRecursive c = true
  · have hresults : ∀ s ∈ results, s.unknown = false := fun s => h.known_of_mem hknown
    obtain ⟨next, settled, hloop, hvalues, hpos, -⟩ := rounds_of_known hvalid hrecursive hcomponent
      hresults (h.mem_membersOf hid (hknown id hid))
    have hprovides := (r.provides_empty (r.membersOf c)).rounds hkeyed hloop
    have hsettles : ∀ id ∈ r.membersOf c, r.Settles table next id := fun id hid => by
      obtain ⟨s, hs, rfl⟩ := h.spec.complete id hid
      exact (h.settles_iff_consistent hedge hvalues hprovides hs (hresults s hs)).2
        (hconsistent _ (mem_membersOf_iff.1 hid).1)
    have hmore := rounds_of_lt hloop hsettles (m := budget.toNat) (by omega)
    rw [summarizeComponent_withRounds hrecursive hmore, hvalues]
    rfl
  · rw [summarizeComponent_withRounds_of_not_recursive (by simpa using hrecursive), hcomponent]

end

end SummarisedFrom

/-! ### Two budgets -/

theorem recorded_of_settled (h : r.Settled res c) (hid : id ∈ c) :
    (id ∈ res.recomputed ↔ id ∈ r.initial.recomputed ∨ (¬ r.Inherited res c ∧ id ∈ r.valid)) ∧
      (id ∈ res.reused ↔ r.Inherited res c) := by
  have hnone : id ∉ r.initial.reused := by
    rw [(failing_initial r).reused]
    exact OrderedSet.not_mem_empty id
  rcases settled_cases h with ⟨hinherited, hinherits⟩ | ⟨hnot, table, results, h⟩
  · have hin := hinherits id hid
    exact ⟨by simp [hin.recomputed, hinherited], iff_of_true hin.reused hinherited⟩
  · by_cases hv : id ∈ r.valid
    · obtain ⟨s, hs, rfl⟩ := h.spec.complete id (mem_membersOf_iff.2 ⟨hid, hv⟩)
      have hp := h.published s hs
      exact ⟨iff_of_true hp.recomputed (Or.inr ⟨hnot, hv⟩),
        iff_of_false (fun hmem => hnone (hp.reused.1 hmem)) hnot⟩
    · have hsame := h.rest id hid hv
      exact ⟨by simp [hsame.recomputed, hv],
        iff_of_false (fun hmem => hnone (hsame.reused.1 hmem)) hnot⟩

/-- **The budget has no part in what is taken over.** -/
theorem inherited_withRounds_iff {layers : List (List Names)}
    (hlayered : CallGraph.Layered r.graph.callees layers) {budget : Int} (hstage : r.Stage layers res)
    (hstage' : (r.withRounds budget).Stage layers res') :
    ∀ layer ∈ layers, ∀ c ∈ layer, ((r.withRounds budget).Inherited res' c ↔ r.Inherited res c) := by
  have hturn : ∀ c, (∀ id ∈ c, ∀ callee, r.graph.callees.Edge id callee → callee ∉ c →
      (callee ∈ res'.recomputed ↔ callee ∈ res.recomputed)) →
        ((r.withRounds budget).Inherited res' c ↔ r.Inherited res c) := fun c h =>
    and_congr_right' (Eq.congr_left (takesOver_congr h) : r.takesOver res' c = true ↔ _)
  have hrecomputed : ∀ layer ∈ layers, ∀ c ∈ layer, ∀ id ∈ c,
      (id ∈ res'.recomputed ↔ id ∈ res.recomputed) := by
    refine hlayered.induction (List.append_nil layers).symm ?_
    intro layer hlayer c hc hbelow id hid
    have hsame := hturn c fun id hid callee hedge hout => (hbelow id hid callee hedge hout).2
    have hrecorded := (recorded_of_settled (hstage'.settled layer hlayer c hc) hid).1
    rw [hsame] at hrecorded
    exact hrecorded.trans (recorded_of_settled (hstage.settled layer hlayer c hc) hid).1.symm
  refine fun layer hlayer c hc => hturn c fun id hid callee hedge hout => ?_
  obtain ⟨before, after, hsplit⟩ := List.append_of_mem hlayer
  rcases hlayered.lower before layer after hsplit c hc id hid callee hedge with
    hin | ⟨lower, hl, d, hd, hin⟩
  · exact absurd hin hout
  · exact hrecomputed lower (by rw [hsplit]; exact List.mem_append_left _ hl) d hd callee hin

section

variable (hkeyed : r.program.WellKeyed)
  (hvalid : ∀ id ∈ r.valid, ∃ f, r.program.functions.get? id = some f)
  (hedge : ∀ id f, r.program.functions.get? id = some f → ∀ callee,
    f.Calls r.program.functionIds callee → r.graph.callees.Edge id callee)

include hkeyed hvalid hedge

/-- A known summary lasts, unless its component is recursive and had one round only. -/
theorem lasting_of_settled (h : r.Settled res c) (hknown : ∀ id ∈ c, Known res id)
    (hrounds : r.graph.isRecursive c = true → r.limits.maxRounds ≠ 1) : ∀ id ∈ c, r.Lasting res id := by
  intro id hid
  rcases settled_cases h with ⟨-, hinherits⟩ | ⟨-, table, results, h⟩
  · exact Or.inl (hinherits id hid).reused
  · exact Or.inr (h.consistent hkeyed hvalid hedge hknown hrounds id hid)

/-- A larger budget leaves the known summaries of a component alone exactly if they last. -/
theorem same_iff_lasting {budget : Int} (hle : r.limits.maxRounds ≤ budget) (hsettled : r.Settled res c)
    (hsettled' : (r.withRounds budget).Settled res' c)
    (hinherited : (r.withRounds budget).Inherited res' c ↔ r.Inherited res c)
    (hknown : ∀ id ∈ c, Known res id)
    (hcallees : ∀ id ∈ c, ∀ callee, r.graph.callees.Edge id callee → callee ∉ c →
      res'.summaries.get? callee = res.summaries.get? callee) :
    (∀ id ∈ c, res'.summaries.get? id = res.summaries.get? id) ↔
      r.limits.maxRounds = budget ∨ ∀ id ∈ c, r.Lasting res id := by
  rcases settled_cases hsettled with ⟨hin, hinherits⟩ | ⟨hnot, table, results, h⟩
  · have hinherits' := ((settled_cases hsettled').resolve_right fun h' => h'.1 (hinherited.2 hin)).2
    exact iff_of_true (fun id hid => (hinherits' id hid).summary.trans (hinherits id hid).summary.symm)
      (Or.inr fun id hid => Or.inl (hinherits id hid).reused)
  obtain ⟨-, table', results', h'⟩ :=
    (settled_cases hsettled').resolve_left fun h' => hnot (hinherited.1 h'.1)
  constructor
  · intro hsame
    refine or_iff_not_imp_left.2 fun hne id hid => ?_
    by_cases hone : r.limits.maxRounds = 1
    · -- the larger budget has two rounds at least, and what it came to is the same
      have hknown' : ∀ id ∈ c, Known res' id := fun id hid => by
        obtain ⟨s, hs, hs'⟩ := hknown id hid
        exact ⟨s, (hsame id hid).trans hs, hs'⟩
      have hbudget : (r.withRounds budget).limits.maxRounds ≠ 1 := fun he => hne (hone.trans he.symm)
      have hconsistent : r.Consistent res'.summaries id := SummarisedFrom.consistent
        (r := r.withRounds budget) hkeyed hvalid hedge h' hknown' (fun _ => hbudget) id hid
      refine Or.inr (hconsistent.congr (hsame id hid).symm fun f hf callee hcalls => ?_)
      by_cases hin : callee ∈ c
      · exact (hsame callee hin).symm
      · exact (hcallees id hid callee (hedge id f hf callee hcalls) hin).symm
    · exact lasting_of_settled hkeyed hvalid hedge hsettled hknown (fun _ => hone) id hid
  · intro hlasting id hid
    have hagree : (r.withRounds budget).AgreeOn ((r.withRounds budget).membersOf c) table table' := by
      intro v hv f hf callee hcalls
      have hin := (mem_membersOf_iff.1 hv).1
      by_cases hmem : callee ∈ c
      · exact (h'.own callee hmem).trans (h.own callee hmem).symm
      · have hcall := hedge v f hf callee hcalls
        exact (h'.below v hin callee hcall hmem).trans
          ((hcallees v hin callee hcall hmem).trans (h.below v hin callee hcall hmem).symm)
    have hmember := h.mem_membersOf hid (hknown id hid)
    have hmore : (r.withRounds budget).summarizeComponent table c = .ok results := by
      rcases hle.eq_or_lt with rfl | hlt
      · exact h.component id hmember
      · refine h.withRounds hkeyed hvalid hedge hknown (fun v hv => ?_) hlt hid
        refine (hlasting.resolve_left hlt.ne v hv).resolve_left fun hreused => ?_
        exact hnot ((recorded_of_settled hsettled hv).2.1 hreused)
    have hcomponent := h'.component id hmember
    rw [summarizeComponent_congr hagree, hmore] at hcomponent
    obtain rfl := Except.ok.inj hcomponent
    obtain ⟨s, hs, rfl⟩ := h.spec.complete id hmember
    exact (h'.published s hs).summary.trans (h.published s hs).summary.symm

end

/-- **Raising the budget of rounds.**  A component that comes to known summaries comes to the same ones with
a larger budget, and in a whole run they last, unless it is recursive and had one round only.  As long as
what it calls keeps its summaries, a component with known summaries keeps its own if and only if they last;
so with another budget than one round, a function keeps its summary if all functions that can be reached
from it have known ones. -/
theorem resolve_raised (p : Program) (rules : Registry) (visits budget budget' : Int)
    (previous : NameMap Summary) (hkeyed : p.WellKeyed) (hle : budget ≤ budget')
    (allowance allowance' left left' : Allowance) (res res' : Resolution)
    (h : (ofProgram p rules ⟨visits, budget⟩ previous).resolve allowance = .ok (res, left))
    (h' : (ofProgram p rules ⟨visits, budget'⟩ previous).resolve allowance' = .ok (res', left')) :
    (∀ published c results, (∀ s ∈ results, s.unknown = false) →
      ((CallGraph.ofProgram p).isRecursive c = true → budget ≠ 1) →
        (ofProgram p rules ⟨visits, budget⟩ previous).summarizeComponent published c = .ok results →
          (ofProgram p rules ⟨visits, budget'⟩ previous).summarizeComponent published c = .ok results) ∧
    (∀ layer ∈ (CallGraph.ofProgram p).layers, ∀ c ∈ layer, (∀ id ∈ c, Known res id) →
      (((CallGraph.ofProgram p).isRecursive c = true → budget ≠ 1) →
        ∀ id ∈ c, (ofProgram p rules ⟨visits, budget⟩ previous).Lasting res id) ∧
      ((∀ id ∈ c, ∀ callee, (CallGraph.ofProgram p).callees.Edge id callee → callee ∉ c →
          res'.summaries.get? callee = res.summaries.get? callee) →
        ((∀ id ∈ c, res'.summaries.get? id = res.summaries.get? id) ↔
          budget = budget' ∨
            ∀ id ∈ c, (ofProgram p rules ⟨visits, budget⟩ previous).Lasting res id))) ∧
      (budget ≠ 1 → ∀ id ∈ p.functionIds,
        (∀ w, (CallGraph.ofProgram p).callees.Reaches id w → Known res w) →
          res'.summaries.get? id = res.summaries.get? id) := by
  let r := ofProgram p rules ⟨visits, budget⟩ previous
  have hvalid : ∀ id ∈ r.valid, ∃ f, r.program.functions.get? id = some f :=
    fun _ => exists_function_of_mem_valid
  have hedge : ∀ id f, r.program.functions.get? id = some f → ∀ callee,
      f.Calls r.program.functionIds callee → r.graph.callees.Edge id callee :=
    fun id f hf callee hcalls => CallGraph.edge_of_calls hkeyed hf hcalls
  have hlayered := CallGraph.layered_layers r.graph rfl
  have hstage : r.Stage r.graph.layers res := stage_of_resolve hkeyed h
  have hstage' : (r.withRounds budget').Stage r.graph.layers res' := stage_of_resolve hkeyed h'
  have hlasting : ∀ layer ∈ r.graph.layers, ∀ c ∈ layer, (∀ id ∈ c, Known res id) →
      (r.graph.isRecursive c = true → budget ≠ 1) → ∀ id ∈ c, r.Lasting res id :=
    fun layer hlayer c hc hknown hrounds =>
      lasting_of_settled hkeyed hvalid hedge (hstage.settled layer hlayer c hc) hknown hrounds
  have hsame : ∀ layer ∈ r.graph.layers, ∀ c ∈ layer, (∀ id ∈ c, Known res id) →
      (∀ id ∈ c, ∀ callee, r.graph.callees.Edge id callee → callee ∉ c →
        res'.summaries.get? callee = res.summaries.get? callee) →
      ((∀ id ∈ c, res'.summaries.get? id = res.summaries.get? id) ↔
        budget = budget' ∨ ∀ id ∈ c, r.Lasting res id) := fun layer hlayer c hc hknown hcallees =>
    same_iff_lasting hkeyed hvalid hedge hle (hstage.settled layer hlayer c hc)
      (hstage'.settled layer hlayer c hc)
      (inherited_withRounds_iff hlayered hstage hstage' layer hlayer c hc) hknown hcallees
  refine ⟨fun published c results hknown hrounds hresults => ?_, fun layer hlayer c hc hknown =>
    ⟨hlasting layer hlayer c hc hknown, hsame layer hlayer c hc hknown⟩, fun hone id hid => ?_⟩
  · exact summarizeComponent_raised (r := r) hvalid hresults hknown hrounds hle
  -- by induction on the layers: the functions that are called keep their summaries
  obtain ⟨layer, hlayer, c, hc, hidc⟩ := exists_component hid
  refine hlayered.induction (List.append_nil _).symm (P := fun id =>
    (∀ w, r.graph.callees.Reaches id w → Known res w) →
      res'.summaries.get? id = res.summaries.get? id) ?_ layer hlayer c hc id hidc
  intro layer hlayer c hc hbelow id hid hknown
  have hreached : ∀ v ∈ c, ∀ w, r.graph.callees.Reaches v w → Known res w := fun v hv w hw =>
    hknown w (((CallGraph.mem_iff_mutual_of_layer _ rfl hlayer hc hid).1 hv).1.trans hw)
  have hmembers : ∀ v ∈ c, Known res v := fun v hv => hreached v hv v .refl
  refine (hsame layer hlayer c hc hmembers fun v hv callee hcall hout => ?_).2
    (Or.inr (hlasting layer hlayer c hc hmembers fun _ => hone)) id hid
  exact (hbelow v hv callee hcall hout).2 fun w hw => hreached v hv w (.head hcall hw)

end Resolver

/-- The function that calls itself settles within three rounds, so it keeps its summary. -/
theorem resolve_raised_countdown : ∃ res left res' left' s,
    (Resolver.ofProgram countdown (.empty ∅) ⟨5, 3⟩ ∅).resolve .unlimited = .ok (res, left) ∧
      (Resolver.ofProgram countdown (.empty ∅) ⟨5, 7⟩ ∅).resolve .unlimited = .ok (res', left') ∧
      res.summaries.get? "f" = some s ∧ s.unknown = false ∧ res'.summaries.get? "f" = some s := by
  obtain ⟨⟨res, left⟩, hres, hknown⟩ := Result.exists_ok_of_any
    (r := (Resolver.ofProgram countdown (.empty ∅) ⟨5, 3⟩ ∅).resolve .unlimited)
    (p := fun result => (result.1.summaries.get? "f").any (fun s => !s.unknown)) (by decide +kernel)
  obtain ⟨⟨res', left'⟩, hres', -⟩ := Result.exists_ok_of_any
    (r := (Resolver.ofProgram countdown (.empty ∅) ⟨5, 7⟩ ∅).resolve .unlimited)
    (p := fun _ => true) (by decide +kernel)
  obtain ⟨s, hs, hs'⟩ := (Option.any_eq_true _ _).1 hknown
  have hunknown : s.unknown = false := by simpa using hs'
  have hids : ∀ w ∈ countdown.functionIds.toList, w = "f" := by decide +kernel
  have hf : "f" ∈ countdown.functionIds := by
    have : "f" ∈ countdown.functionIds.toList := by decide +kernel
    exact this
  obtain ⟨-, -, hsame⟩ := Resolver.resolve_raised countdown (.empty ∅) 5 3 7 ∅ countdown_wellKeyed (by decide)
    .unlimited .unlimited left left' res res' hres hres'
  have hsame := hsame (by decide) "f" hf fun w hw =>
    ⟨s, hids w (CallGraph.mem_functionIds_of_reaches hf hw) ▸ hs, hunknown⟩
  exact ⟨res, left, res', left', s, hres, hres', hs, hunknown, hsame.trans hs⟩

/-- Returns its first parameter, or calls itself with the two of them exchanged. -/
def swapper : Program where
  functions := .ofList [("f", .bare "f" "test" ["x", "y"]
    [("test", .bare .branch ["call", "end"]),
      ("call", { Node.bare .call ["last"] with
        callee := .text "f", args := [some "y", some "x"], target := .text "r" }),
      ("last", { Node.bare .ret [] with operands := ["r"] }),
      ("end", { Node.bare .ret [] with operands := ["x"] })])]
  globals := ∅
  malformed := ∅

/-- Says that the second parameter is returned. -/
def secondReturned : Transfer := ⟨.text (paramMarker 1), .text returnSlot, .truth false⟩

/-- **With one round the summary of a recursive function is published before it has settled.**  With two rounds
the function is unknown.  What was published does not say that the second parameter is returned, as the next
round finds out. -/
theorem not_raised_swapper : ∃ res left res' left' f s s' new,
    (Resolver.ofProgram swapper (.empty ∅) ⟨5, 1⟩ ∅).resolve .unlimited = .ok (res, left) ∧
      (Resolver.ofProgram swapper (.empty ∅) ⟨5, 2⟩ ∅).resolve .unlimited = .ok (res', left') ∧
      swapper.functions.get? "f" = some f ∧
      res.summaries.get? "f" = some s ∧ s.unknown = false ∧ secondReturned ∉ s.transfers ∧
      res'.summaries.get? "f" = some s' ∧ s'.unknown = true ∧
      (Resolver.ofProgram swapper (.empty ∅) ⟨5, 1⟩ ∅).summarize res.summaries.get? f = .ok new ∧
      secondReturned ∈ new.transfers := by
  obtain ⟨⟨res, left⟩, hres, h⟩ := Result.exists_ok_of_any
    (r := (Resolver.ofProgram swapper (.empty ∅) ⟨5, 1⟩ ∅).resolve .unlimited)
    (p := fun result => (result.1.summaries.get? "f").any (fun s =>
        !s.unknown && !s.transfers.toList.contains secondReturned) &&
      (swapper.functions.get? "f").any (fun f =>
        ((Resolver.ofProgram swapper (.empty ∅) ⟨5, 1⟩ ∅).summarize result.1.summaries.get? f).toOption.any
          (fun new => new.transfers.toList.contains secondReturned)))
    (by decide +kernel)
  obtain ⟨⟨res', left'⟩, hres', h'⟩ := Result.exists_ok_of_any
    (r := (Resolver.ofProgram swapper (.empty ∅) ⟨5, 2⟩ ∅).resolve .unlimited)
    (p := fun result => (result.1.summaries.get? "f").any (fun s => s.unknown))
    (by decide +kernel)
  obtain ⟨hpublished, hnext⟩ := Bool.and_eq_true_iff.1 h
  obtain ⟨s, hs, hpublished⟩ := (Option.any_eq_true _ _).1 hpublished
  obtain ⟨f, hf, hnext⟩ := (Option.any_eq_true _ _).1 hnext
  obtain ⟨new, hnew, hreturned⟩ := Result.exists_ok_of_any hnext
  obtain ⟨s', hs', hunknown⟩ := (Option.any_eq_true _ _).1 h'
  simp only [Bool.and_eq_true, Bool.not_eq_true', List.contains_iff_mem, ← Bool.not_eq_true] at hpublished
  exact ⟨res, left, res', left', f, s, s', new, hres, hres', hf, hs, by simpa using hpublished.1,
    hpublished.2, hs', hunknown, hnew, List.contains_iff_mem.1 hreturned⟩

end TaintFlow
