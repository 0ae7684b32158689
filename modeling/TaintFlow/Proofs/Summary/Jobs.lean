import TaintFlow.Proofs.Summary.Reuse

/-!
# The analysis of a component in single steps

The members of a component are summarised one at a time, and each time the analysis looks at what is
published by then.  A `Job` is such an analysis as far as it has come.  What it comes to if nothing more is
published (`Resolver.outcome`) is the same after each of its steps, and it is the same for two tables that
agree on what the members call outside their component (`Resolver.outcome_congr`).  So as long as nobody
writes there, the analysis comes to what it would have come to in one go.
-/

namespace TaintFlow

/-- The analysis of a component as far as it has come. -/
structure Job where
  component : Names
  provisional : NameMap Summary
  /-- The members that are still to be summarised in this round. -/
  queue : List String
  /-- A summary has changed in this round. -/
  changed : Bool
  /-- How many rounds may still begin. -/
  rounds : Nat
deriving DecidableEq

structure Job.Ended (j : Job) : Prop where
  queue : j.queue = []
  last : j.changed = false ∨ j.rounds = 0

namespace Resolver

variable {r : Resolver} {published published' provisional : NameMap Summary} {c : Names} {j j' : Job}

/-! ### What an analysis reads -/

/-- The tables agree on everything that the functions call. -/
def AgreeOn (r : Resolver) (members : List String) (published published' : NameMap Summary) : Prop :=
  ∀ id ∈ members, ∀ f, r.program.functions.get? id = some f → ∀ callee,
    f.Calls r.program.functionIds callee → published'.get? callee = published.get? callee

theorem refine_congr {members : List String} (h : r.AgreeOn members published published') {id : String}
    (hid : id ∈ members) (round : NameMap Summary × Bool) :
    r.refine published' round id = r.refine published round id := by
  cases hf : r.program.functions.get? id with
  | none =>
    unfold refine
    simp only [hf]
  | some f =>
    have hnew : r.summarize (fun id => (round.1.get? id).or (published'.get? id)) f =
        r.summarize (fun id => (round.1.get? id).or (published.get? id)) f :=
      summarize_congr fun callee hcallee => by rw [h id hid f hf callee hcallee]
    unfold refine
    simp only [hf, hnew]

theorem round_congr {members : List String} (h : r.AgreeOn members published published')
    {ids : List String} (hids : ∀ id ∈ ids, id ∈ members) (round : NameMap Summary × Bool) :
    ids.foldlM (r.refine published') round = ids.foldlM (r.refine published) round := by
  induction ids generalizing round with
  | nil => rw [List.foldlM_nil, List.foldlM_nil]
  | cons id rest ih =>
    rw [List.foldlM_cons, List.foldlM_cons, refine_congr h (hids id List.mem_cons_self)]
    refine bind_congr fun next => ?_
    exact ih (fun other ho => hids other (List.mem_cons_of_mem id ho)) next

theorem rounds_congr {members : List String} (h : r.AgreeOn members published published') (n : Nat)
    (provisional : NameMap Summary) :
    r.rounds published' members n provisional = r.rounds published members n provisional := by
  induction n generalizing provisional with
  | zero => rfl
  | succ n ih =>
    rw [rounds, rounds, round_congr h fun _ hid => hid]
    refine bind_congr fun next => ?_
    dsimp only
    rw [ih]

/-- **A component reads what its members call**, and nothing else that is published. -/
theorem summarizeComponent_congr (h : r.AgreeOn (r.membersOf c) published published') :
    r.summarizeComponent published' c = r.summarizeComponent published c := by
  rw [summarizeComponent_eq, summarizeComponent_eq, rounds_congr h]

/-! ### Steps of a job -/

/-- The analysis before its first round. -/
def startJob (r : Resolver) (c : Names) : Job := ⟨c, ∅, [], true, (r.budgetOf c).toNat⟩

/-- One step of an analysis, with what is published at the time. -/
inductive JobStep (r : Resolver) (published : NameMap Summary) : Job → Job → Prop
  /-- The next member is summarised. -/
  | member {j : Job} {id : String} {rest : List String} {provisional : NameMap Summary} {changed : Bool}
      (hqueue : j.queue = id :: rest)
      (hrefine : r.refine published (j.provisional, j.changed) id = .ok (provisional, changed)) :
      JobStep r published j
        { j with provisional := provisional, changed := changed, queue := rest }
  /-- The next round begins, since the last one has changed something. -/
  | round {j : Job} {n : Nat} (hqueue : j.queue = []) (hchanged : j.changed = true)
      (hrounds : j.rounds = n + 1) :
      JobStep r published j
        { j with queue := r.membersOf j.component, changed := false, rounds := n }

/-- What a job that has ended comes to. -/
def jobResults (r : Resolver) (j : Job) : Result (List Summary) :=
  if !j.changed || r.budgetOf j.component = 1 then .ok j.provisional.values
  else r.giveUp j.component

/-- What a job comes to if nothing more is published: the provisional summaries, and whether the last
round changed none of them. -/
def outcome (r : Resolver) (published : NameMap Summary) (j : Job) :
    Result (NameMap Summary × Bool) := do
  let (provisional, changed) ← j.queue.foldlM (r.refine published) (j.provisional, j.changed)
  if changed then r.rounds published (r.membersOf j.component) j.rounds provisional
  else return (provisional, true)

theorem outcome_startJob (r : Resolver) (published : NameMap Summary) (c : Names) :
    r.outcome published (r.startJob c) =
      r.rounds published (r.membersOf c) (r.budgetOf c).toNat ∅ := by
  unfold outcome startJob
  simp only [List.foldlM_nil, pure_bind, if_true]

theorem component_of_jobStep (h : r.JobStep published j j') : j'.component = j.component := by
  cases h <;> rfl

theorem queue_of_jobStep (h : r.JobStep published j j')
    (hqueue : ∀ id ∈ j.queue, id ∈ r.membersOf j.component) :
    ∀ id ∈ j'.queue, id ∈ r.membersOf j'.component := by
  cases h with
  | member hfirst hrefine => exact fun id hid => hqueue id (hfirst ▸ List.mem_cons_of_mem _ hid)
  | round => exact fun id hid => hid

/-- A step does not change what the job comes to. -/
theorem outcome_of_jobStep (h : r.JobStep published j j') :
    r.outcome published j' = r.outcome published j := by
  cases h with
  | member hqueue hrefine =>
    unfold outcome
    rw [hqueue, List.foldlM_cons, hrefine]
    rfl
  | round hqueue hchanged hrounds =>
    unfold outcome
    simp only [hqueue, hchanged, hrounds, List.foldlM_nil, pure_bind, if_true, rounds]

theorem outcome_of_ended (h : j.Ended) : r.outcome published j = .ok (j.provisional, !j.changed) := by
  have hfold : j.queue.foldlM (r.refine published) (j.provisional, j.changed) =
      .ok (j.provisional, j.changed) := by
    rw [h.queue]
    rfl
  have hout : r.outcome published j =
      if j.changed then r.rounds published (r.membersOf j.component) j.rounds j.provisional
      else .ok (j.provisional, true) := by
    unfold outcome
    rw [hfold]
    rfl
  rw [hout]
  cases hchanged : j.changed with
  | false => rfl
  | true =>
    rcases h.last with hlast | hrounds
    · rw [hchanged] at hlast
      cases hlast
    · rw [hrounds, rounds, if_pos rfl]
      rfl

/-- The summaries of a job that has ended are those of its component, if it came to what the component
comes to. -/
theorem summarizeComponent_of_ended (h : j.Ended)
    (houtcome : r.outcome published j = r.outcome published (r.startJob j.component)) :
    r.summarizeComponent published j.component = r.jobResults j := by
  rw [summarizeComponent_eq, ← outcome_startJob, ← houtcome, outcome_of_ended h]
  rfl

theorem outcome_congr (h : r.AgreeOn (r.membersOf j.component) published published')
    (hqueue : ∀ id ∈ j.queue, id ∈ r.membersOf j.component) :
    r.outcome published' j = r.outcome published j := by
  unfold outcome
  rw [round_congr h hqueue]
  refine bind_congr fun next => ?_
  dsimp only
  rw [rounds_congr h]

theorem exists_jobStep {out : NameMap Summary × Bool} (h : r.outcome published j = .ok out) :
    j.Ended ∨ ∃ j', r.JobStep published j j' := by
  cases hqueue : j.queue with
  | cons id rest =>
    unfold outcome at h
    rw [hqueue, List.foldlM_cons] at h
    obtain ⟨_, hfold, _⟩ := Result.exists_of_bind_eq_ok h
    obtain ⟨⟨provisional, changed⟩, hrefine, _⟩ := Result.exists_of_bind_eq_ok hfold
    exact Or.inr ⟨_, .member hqueue hrefine⟩
  | nil =>
    by_cases hchanged : j.changed = true
    · cases hrounds : j.rounds with
      | zero => exact Or.inl ⟨hqueue, Or.inr hrounds⟩
      | succ n => exact Or.inr ⟨_, .round hqueue hchanged hrounds⟩
    · exact Or.inl ⟨hqueue, Or.inl (Bool.eq_false_of_not_eq_true hchanged)⟩

/-- How many steps a job may still take, at most. -/
def stepsLeft (r : Resolver) (j : Job) : Nat :=
  j.rounds * ((r.membersOf j.component).length + 1) + j.queue.length

theorem stepsLeft_lt (h : r.JobStep published j j') : r.stepsLeft j' < r.stepsLeft j := by
  cases h with
  | member hqueue hrefine => simp [stepsLeft, hqueue]
  | round hqueue hchanged hrounds =>
    simp only [stepsLeft, hqueue, hrounds, List.length_nil, Nat.add_mul]
    omega

end Resolver

end TaintFlow
