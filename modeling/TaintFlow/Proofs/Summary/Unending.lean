import TaintFlow.Proofs.Summary.Rounds

/-!
# Rounds without end

The rounds over a component stop when one of them changes nothing, or when the budget is used up.  Here
they go on without end (`Resolver.Unending`), also when nothing changes any more.  A component converges
when every large enough budget gives it known summaries (`Resolver.Converges`), and it does so exactly
when some round changes nothing (`Unending.converges_iff`).
-/

namespace TaintFlow.Resolver

variable {r : Resolver} {published provisional next : NameMap Summary} {members : List String}

def withRounds (r : Resolver) (budget : Int) : Resolver :=
  { r with limits := { r.limits with maxRounds := budget } }

/-- Every large enough budget of rounds gives each member of the component a known summary. -/
def Converges (r : Resolver) (published : NameMap Summary) (component : Names) : Prop :=
  ∃ bound : Nat, ∀ budget : Int, bound ≤ budget → ∃ results,
    (r.withRounds budget).summarizeComponent published component = .ok results ∧
      (∀ id ∈ r.membersOf component, ∃ s ∈ results, s.function = id) ∧
      ∀ s ∈ results, s.unknown = false

/-- The tables of rounds that go on without end, from nothing, and whether each round changes its table.
No member becomes unknown, so no analysis uses up its visits. -/
structure Unending (r : Resolver) (published : NameMap Summary) (members : List String)
    (table : Nat → NameMap Summary) (changed : Nat → Bool) : Prop where
  start : table 0 = ∅
  round : ∀ n, members.foldlM (r.refine published) (table n, false) = .ok (table (n + 1), changed n)
  known : ∀ n id s, (table n).get? id = some s → s.unknown = false

/-- Rounds that can always go on, as long as the tables are of some kind, go on without end. -/
theorem exists_unending (kind : Nat → NameMap Summary → Prop) (changed : Nat → Bool)
    (hstart : kind 0 ∅)
    (hstep : ∀ n provisional, kind n provisional → ∃ next,
      members.foldlM (r.refine published) (provisional, false) = .ok (next, changed n) ∧
        kind (n + 1) next)
    (hknown : ∀ n provisional, kind n provisional → ∀ id s, provisional.get? id = some s →
      s.unknown = false) :
    ∃ table, r.Unending published members table changed ∧ ∀ n, kind n (table n) := by
  choose advance hround hkind using hstep
  let tables : (n : Nat) → { provisional // kind n provisional } := fun n =>
    n.rec ⟨∅, hstart⟩ fun n prior => ⟨advance n prior.1 prior.2, hkind n prior.1 prior.2⟩
  refine ⟨fun n => (tables n).1, ⟨rfl, ?_, ?_⟩, fun n => (tables n).2⟩
  · exact fun n => hround n (tables n).1 (tables n).2
  · exact fun n => hknown n (tables n).1 (tables n).2

theorem get?_of_round {ids : List String} {id : String} (hid : id ∉ ids) {changed changed' : Bool}
    (h : ids.foldlM (r.refine published) (provisional, changed) = .ok (next, changed')) :
    next.get? id = provisional.get? id := by
  induction ids generalizing provisional changed with
  | nil =>
    cases h
    rfl
  | cons other rest ih =>
    rw [List.foldlM_cons] at h
    obtain ⟨⟨mid, changedMid⟩, hfirst, hrest⟩ := Result.exists_of_bind_eq_ok h
    rw [ih (fun hmem => hid (List.mem_cons_of_mem other hmem)) hrest]
    rcases refine_cases hfirst with ⟨rfl, -, -⟩ | ⟨f, new, -, -, -, rfl, -⟩
    · rfl
    · exact OrderedMap.get?_set_ne _ _ fun he => hid (he ▸ List.mem_cons_self)

/-- A round that changes something gives a member a summary that differs from the one before. -/
theorem exists_differs_of_round {ids : List String} (hnodup : ids.Nodup) {changed : Bool}
    (h : ids.foldlM (r.refine published) (provisional, changed) = .ok (next, true))
    (hchanged : changed = false) : ∃ id ∈ ids, ∃ new, next.get? id = some new ∧
      ∀ old, provisional.get? id = some old → new.toEffect.same old.toEffect = false := by
  induction ids generalizing provisional changed with
  | nil =>
    cases h
    cases hchanged
  | cons id rest ih =>
    rw [List.foldlM_cons] at h
    obtain ⟨hid, hrestNodup⟩ := List.nodup_cons.1 hnodup
    obtain ⟨⟨mid, changedMid⟩, hfirst, hrest⟩ := Result.exists_of_bind_eq_ok h
    rcases refine_cases hfirst with ⟨rfl, rfl, -⟩ | ⟨f, new, -, -, hdiffers, rfl, -⟩
    · obtain ⟨other, hother, hnew⟩ := ih hrestNodup hrest hchanged
      exact ⟨other, List.mem_cons_of_mem id hother, hnew⟩
    · refine ⟨id, List.mem_cons_self, new, ?_, fun old hold => (hdiffers old hold).2⟩
      rw [get?_of_round hid hrest]
      exact OrderedMap.get?_set_self _ _ _

namespace Unending

variable {table : Nat → NameMap Summary} {changed : Nat → Bool}

theorem provides (h : r.Unending published members table changed) (hkeyed : r.program.WellKeyed)
    (n : Nat) : r.Provides members (table n) := by
  induction n with
  | zero =>
    intro id s hs
    rw [h.start] at hs
    cases hs
  | succ n ih => exact ih.round hkeyed (h.round n)

theorem exists_get? (h : r.Unending published members table changed)
    (hfunctions : ∀ id ∈ members, ∃ f, r.program.functions.get? id = some f) {n : Nat} (hn : 0 < n)
    {id : String} (hid : id ∈ members) : ∃ s, (table n).get? id = some s := by
  obtain ⟨m, rfl⟩ := Nat.exists_eq_add_of_lt hn
  obtain ⟨f, hf⟩ := hfunctions id hid
  rw [Nat.zero_add]
  exact summarised_of_round (h.round m) hid hf

theorem unchanged_of_le (h : r.Unending published members table changed) {n m : Nat}
    (hn : changed n = false) (hle : n ≤ m) :
    table m = table n ∧ changed m = false := by
  induction m, hle using Nat.le_induction with
  | base => exact ⟨rfl, hn⟩
  | succ m _ ih =>
    obtain ⟨htable, hm⟩ := ih
    have hsame : table (m + 1) = table m := (settles_of_round (hm ▸ h.round m)).2.1
    have hround := h.round (m + 1)
    rw [hsame, h.round m] at hround
    have hchanged : changed m = changed (m + 1) := (Prod.mk.inj (Except.ok.inj hround)).2
    exact ⟨hsame.trans htable, hchanged ▸ hm⟩

/-! ### Rounds within a budget -/

theorem rounds_of_changed (h : r.Unending published members table changed) (k n : Nat)
    (hall : ∀ m, changed m = true) :
    r.rounds published members k (table n) = .ok (table (n + k), false) := by
  induction k generalizing n with
  | zero => rfl
  | succ k ih =>
    rw [rounds, h.round n]
    have hstep : r.rounds published members k (table (n + 1)) = .ok (table (n + 1 + k), false) :=
      ih (n + 1)
    rw [Nat.add_assoc, Nat.add_comm 1 k] at hstep
    simp only [bind, Except.bind, hall n, if_true]
    exact hstep

theorem rounds_of_unchanged (h : r.Unending published members table changed) {m : Nat}
    (hm : changed m = false) {n k : Nat} (hn : n ≤ m) (hk : m < n + k) :
    ∃ last, n < last ∧ r.rounds published members k (table n) = .ok (table last, true) := by
  induction k generalizing n with
  | zero => omega
  | succ k ih =>
    rw [rounds, h.round n]
    cases hchanged : changed n with
    | false => exact ⟨n + 1, Nat.lt_succ_self n, by simp [bind, Except.bind, pure, Except.pure]⟩
    | true =>
      have hne : n ≠ m := by
        rintro rfl
        rw [hm] at hchanged
        cases hchanged
      obtain ⟨last, hlast, hrounds⟩ := ih (n := n + 1) (by omega) (by omega)
      refine ⟨last, by omega, ?_⟩
      simp only [bind, Except.bind, if_true]
      exact hrounds

end Unending

theorem rounds_withRounds (budget : Int) (n : Nat) :
    (r.withRounds budget).rounds published members n provisional =
      r.rounds published members n provisional := by
  induction n generalizing provisional with
  | zero => rfl
  | succ n ih =>
    rw [rounds, rounds]
    refine bind_congr fun result => ?_
    obtain ⟨next, changed⟩ := result
    dsimp only
    rw [ih]

/-- What a budget of rounds makes of a recursive component. -/
theorem summarizeComponent_withRounds {component : Names}
    (hrecursive : r.graph.isRecursive component = true) {budget : Int} {settled : Bool}
    (h : r.rounds published (r.membersOf component) budget.toNat ∅ = .ok (next, settled)) :
    (r.withRounds budget).summarizeComponent published component =
      if settled || budget = 1 then .ok next.values else (r.withRounds budget).giveUp component := by
  have hbudget : (r.withRounds budget).budgetOf component = budget := if_pos hrecursive
  have hmembers : (r.withRounds budget).membersOf component = r.membersOf component := rfl
  rw [summarizeComponent_eq, hbudget, hmembers, rounds_withRounds, h]
  rfl

namespace Unending

variable {table : Nat → NameMap Summary} {changed : Nat → Bool} {component : Names}

/-- **A component converges exactly when some round changes nothing.** -/
theorem converges_iff (h : r.Unending published (r.membersOf component) table changed)
    (hkeyed : r.program.WellKeyed)
    (hfunctions : ∀ id ∈ r.membersOf component, ∃ f, r.program.functions.get? id = some f)
    (hrecursive : r.graph.isRecursive component = true) :
    r.Converges published component ↔ ∃ n, changed n = false := by
  constructor
  · rintro ⟨bound, hbound⟩
    by_contra hnone
    have hall : ∀ m, changed m = true := by
      intro m
      by_contra hm
      exact hnone ⟨m, by simpa using hm⟩
    -- then there are members, and with a budget of two rounds at least they fail
    obtain ⟨id, hid, -⟩ := exists_differs_of_round (component.nodup_toList.filter _)
      (hall 0 ▸ h.round 0) rfl
    obtain ⟨results, hresults, -, hknown⟩ := hbound ((bound + 2 : Nat) : Int) (by omega)
    have hrounds := h.rounds_of_changed (bound + 2) 0 hall
    rw [h.start, ← Int.toNat_natCast (bound + 2)] at hrounds
    rw [summarizeComponent_withRounds hrecursive hrounds] at hresults
    have hone : ¬ ((bound + 2 : Nat) : Int) = 1 := by omega
    simp only [hone, decide_false, Bool.or_self, Bool.false_eq_true, if_false] at hresults
    obtain ⟨-, rfl⟩ := giveUp_eq_ok_iff.1 hresults
    obtain ⟨f, hf⟩ := hfunctions id hid
    have hfailed := hknown _ (List.mem_filterMap.2 ⟨id, hid, congrArg (Option.map _) hf⟩)
    cases hfailed
  · rintro ⟨n, hn⟩
    refine ⟨n + 1, fun budget hbudget => ?_⟩
    obtain ⟨last, hlast, hrounds⟩ := h.rounds_of_unchanged hn (Nat.zero_le n)
      (k := budget.toNat) (by omega)
    rw [h.start] at hrounds
    refine ⟨(table last).values, ?_, ?_, ?_⟩
    · rw [summarizeComponent_withRounds hrecursive hrounds]
      rfl
    · intro id hid
      obtain ⟨s, hs⟩ := h.exists_get? hfunctions hlast hid
      exact ⟨s, OrderedMap.mem_values_iff.2 ⟨id, hs⟩, (h.provides hkeyed last id s hs).2.1⟩
    · intro s hs
      obtain ⟨id, hs⟩ := OrderedMap.mem_values_iff.1 hs
      exact h.known last id s hs

end Unending

end TaintFlow.Resolver
