import TaintFlow.Proofs.Collection
import TaintFlow.Proofs.Result
import TaintFlow.Proofs.Summary.Parts
import TaintFlow.Summary.Resolve

/-!
# Rounds over a component

The members of a component are summarised one after the other, each from what is known by then, until
a round changes nothing.  Then every member's summary says what a new summary would say
(`Settles`), or it is unknown.  A member that does not call itself needs one round.
-/

namespace TaintFlow

/-- Every function is listed under its own id. -/
def Program.WellKeyed (p : Program) : Prop := ∀ id f, p.functions.get? id = some f → f.id = id

/-- A call of the function leads to a function of the program. -/
def Function.Calls (f : Function) (known : Names) (callee : String) : Prop :=
  ∃ id n, f.node? id = some n ∧ n.kind = .call ∧ n.callee = .text callee ∧ callee ∈ known ∧
    n.dynamic = false

namespace Resolver

variable {r : Resolver} {published provisional next : NameMap Summary} {members : List String}

/-- What the analysis of a function looks up when it is summarised. -/
def frameOf (r : Resolver) (view : String → Option Summary) (f : Function) : Frame :=
  ⟨f, r.rules, fun id => (view id).map Summary.toEffect, r.program.globals, r.program.functionIds⟩

theorem summarize_eq (r : Resolver) (view : String → Option Summary) (f : Function) :
    r.summarize view f =
      match (r.frameOf view f).analyze (.whole r.limits.maxVisits)
        (f.symbolicInputs r.program.globals) with
      | .ok a => .ok (.ofAnalysis f a)
      | .error fault =>
        if fault.isLocal then .ok (.failed f.id f.contentHash fault.message) else .error fault := rfl

/-- What summarising a function can come to: a summary of its analysis, or a failed one. -/
theorem summarize_cases {view : String → Option Summary} {f : Function} {s : Summary}
    (h : r.summarize view f = .ok s) :
    (∃ a, (r.frameOf view f).analyze (.whole r.limits.maxVisits)
        (f.symbolicInputs r.program.globals) = .ok a ∧ s = .ofAnalysis f a) ∨
      ∃ error, s = .failed f.id f.contentHash error := by
  rw [summarize_eq] at h
  split at h
  · next a ha =>
    cases h
    exact Or.inl ⟨a, ha, rfl⟩
  · split at h
    · cases h
      exact Or.inr ⟨_, rfl⟩
    · cases h

theorem calls_of_calleeOf {view : String → Option Summary} {f : Function} {id callee : String}
    {n : Node} (hn : f.node? id = some n) (hkind : n.kind = .call)
    (hcallee : (r.frameOf view f).calleeOf n = some callee) :
    f.Calls r.program.functionIds callee := by
  unfold Frame.calleeOf at hcallee
  split at hcallee
  · next name hname =>
    split at hcallee
    · next hknown =>
      cases hcallee
      exact ⟨id, n, hn, hkind, hname, hknown.2, hknown.1⟩
    · cases hcallee
  · cases hcallee

theorem function_of_summarize {view : String → Option Summary} {f : Function} {s : Summary}
    (h : r.summarize view f = .ok s) : s.function = f.id := by
  rcases summarize_cases h with ⟨a, -, rfl⟩ | ⟨error, rfl⟩ <;> rfl

/-- A summary is made of the effects of the functions that are called. -/
theorem summarize_congr_effects {view view' : String → Option Summary} {f : Function}
    (h : ∀ callee, f.Calls r.program.functionIds callee →
      (view callee).map Summary.toEffect = (view' callee).map Summary.toEffect) :
    r.summarize view f = r.summarize view' f := by
  have hframe : (r.frameOf view' f).within (fun id => (view id).map Summary.toEffect)
      r.program.globals r.program.functionIds = r.frameOf view f := rfl
  have hagrees : ∀ id n, (r.frameOf view' f).function.node? id = some n →
      (r.frameOf view' f).AgreesAt (fun id => (view id).map Summary.toEffect) r.program.globals
        r.program.functionIds n :=
    fun id n hn hkind => ⟨rfl, fun callee hcallee =>
      ⟨h callee (calls_of_calleeOf hn hkind hcallee), fun e _ => e.sameGlobals_refl _⟩⟩
  rw [summarize_eq, summarize_eq, ← hframe, Frame.analyze_within hagrees rfl]

theorem summarize_congr {view view' : String → Option Summary} {f : Function}
    (h : ∀ callee, f.Calls r.program.functionIds callee → view callee = view' callee) :
    r.summarize view f = r.summarize view' f :=
  summarize_congr_effects fun callee hcallee => congrArg (Option.map Summary.toEffect) (h callee hcallee)

/-! ### One round -/

/-- What a member sees: provisional summaries first. -/
def view (published provisional : NameMap Summary) (id : String) : Option Summary :=
  (provisional.get? id).or (published.get? id)

/-- The summary of a member is unknown, or it says what a new one would say. -/
def Settles (r : Resolver) (published provisional : NameMap Summary) (id : String) : Prop :=
  ∀ f, r.program.functions.get? id = some f → ∃ s, provisional.get? id = some s ∧
    (s.unknown = true ∨ ∃ new, r.summarize (view published provisional) f = .ok new ∧
      new.toEffect.same s.toEffect = true)

/-- What one member of a round can do: nothing, if its summary holds, or replace the summary. -/
theorem refine_cases {changed changed' : Bool} {id : String}
    (h : r.refine published (provisional, changed) id = .ok (next, changed')) :
    (next = provisional ∧ changed' = changed ∧ r.Settles published provisional id) ∨
      ∃ f new, r.program.functions.get? id = some f ∧
        r.summarize (view published provisional) f = .ok new ∧
        (∀ old, provisional.get? id = some old →
          old.unknown = false ∧ new.toEffect.same old.toEffect = false) ∧
        next = provisional.set id new ∧ changed' = true := by
  unfold refine at h
  dsimp only at h
  split at h
  · next hnone =>
    cases h
    refine Or.inl ⟨rfl, rfl, fun f hf => ?_⟩
    rw [hnone] at hf
    cases hf
  · next f hf =>
    split at h
    · next hold =>
      cases h
      refine Or.inl ⟨rfl, rfl, fun g hg => ?_⟩
      obtain ⟨s, hs, hunknown⟩ := (Option.any_eq_true _ _).1 hold
      exact ⟨s, hs, Or.inl hunknown⟩
    · next hknown =>
      obtain ⟨new, hnew, h⟩ := Result.exists_of_bind_eq_ok h
      split at h
      · next hsame =>
        cases h
        refine Or.inl ⟨rfl, rfl, fun g hg => ?_⟩
        obtain ⟨s, hs, hsame⟩ := (Option.any_eq_true _ _).1 hsame
        rw [hf, Option.some.injEq] at hg
        subst hg
        exact ⟨s, hs, Or.inr ⟨new, hnew, hsame⟩⟩
      · next hdiffers =>
        cases h
        refine Or.inr ⟨f, new, hf, hnew, fun old hold => ?_, rfl, rfl⟩
        rw [hold] at hknown hdiffers
        exact ⟨by simpa using hknown, by simpa using hdiffers⟩

theorem refine_of_differs {changed : Bool} {id : String} {f : Function} {new : Summary}
    (hf : r.program.functions.get? id = some f)
    (hnew : r.summarize (view published provisional) f = .ok new)
    (hold : ∀ old, provisional.get? id = some old →
      old.unknown = false ∧ new.toEffect.same old.toEffect = false) :
    r.refine published (provisional, changed) id = .ok (provisional.set id new, true) := by
  have hnew : r.summarize (fun id => (provisional.get? id).or (published.get? id)) f = .ok new := hnew
  have hany : ∀ q : Summary → Bool, (∀ old, provisional.get? id = some old → q old = false) →
      (provisional.get? id).any q = false := by
    intro q hq
    cases hget : provisional.get? id with
    | none => rfl
    | some old => exact hq old hget
  have hknown := hany (fun s => s.unknown) fun old hget => (hold old hget).1
  have hdiffers := hany (fun s => new.toEffect.same s.toEffect) fun old hget => (hold old hget).2
  unfold refine
  simp [hf, hnew, hknown, hdiffers, bind, Except.bind, pure, Except.pure]

/-- Whatever each new summary of a member preserves, a round preserves.  A member that has become
unknown gets no new summary. -/
theorem round_induction {motive : NameMap Summary → Prop} {ids : List String}
    {changed changed' : Bool}
    (hround : ids.foldlM (r.refine published) (provisional, changed) = .ok (next, changed'))
    (hstart : motive provisional)
    (hstep : ∀ table id f new, id ∈ ids → motive table → r.program.functions.get? id = some f →
      (∀ old, table.get? id = some old → old.unknown = false) →
      r.summarize (view published table) f = .ok new → motive (table.set id new)) :
    motive next := by
  induction ids generalizing provisional changed with
  | nil =>
    cases hround
    exact hstart
  | cons id rest ih =>
    rw [List.foldlM_cons] at hround
    obtain ⟨⟨mid, changedMid⟩, hfirst, hrest⟩ := Result.exists_of_bind_eq_ok hround
    refine ih hrest ?_ fun table other f new ho => hstep table other f new (List.mem_cons_of_mem id ho)
    rcases refine_cases hfirst with ⟨rfl, -, -⟩ | ⟨f, new, hf, hnew, hold, rfl, -⟩
    · exact hstart
    · exact hstep provisional id f new List.mem_cons_self hstart hf
        (fun old ho => (hold old ho).1) hnew

theorem rounds_induction {motive : NameMap Summary → Prop} {n : Nat} {settled : Bool}
    (hrounds : r.rounds published members n provisional = .ok (next, settled))
    (hstart : motive provisional)
    (hstep : ∀ table id f new, id ∈ members → motive table → r.program.functions.get? id = some f →
      (∀ old, table.get? id = some old → old.unknown = false) →
      r.summarize (view published table) f = .ok new → motive (table.set id new)) :
    motive next := by
  induction n generalizing provisional with
  | zero =>
    cases hrounds
    exact hstart
  | succ n ih =>
    rw [rounds] at hrounds
    obtain ⟨⟨mid, changed⟩, hround, hrest⟩ := Result.exists_of_bind_eq_ok hrounds
    have hmid := round_induction hround hstart hstep
    dsimp only at hrest
    split at hrest
    · exact ih hrest hmid
    · cases hrest
      exact hmid

/-- In rounds that end without an unknown summary there never was one, since such a summary stays. -/
theorem rounds_induction_of_known {motive : NameMap Summary → Prop} {n : Nat} {settled : Bool}
    (hrounds : r.rounds published members n provisional = .ok (next, settled))
    (hknown : ∀ id s, next.get? id = some s → s.unknown = false) (hstart : motive provisional)
    (hstep : ∀ table id f new, id ∈ members → motive table → r.program.functions.get? id = some f →
      r.summarize (view published table) f = .ok new → new.unknown = false →
        motive (table.set id new)) :
    motive next := by
  have hcases : (∃ id s, next.get? id = some s ∧ s.unknown = true) ∨ motive next := by
    refine rounds_induction (motive := fun table =>
      (∃ id s, table.get? id = some s ∧ s.unknown = true) ∨ motive table) hrounds (Or.inr hstart) ?_
    rintro table id f new hid htable hf hold hnew
    by_cases hunknown : new.unknown = true
    · exact Or.inl ⟨id, new, OrderedMap.get?_set_self _ _ _, hunknown⟩
    · rw [Bool.not_eq_true] at hunknown
      refine htable.imp ?_ fun htable => hstep table id f new hid htable hf hnew hunknown
      rintro ⟨other, s, hs, hs'⟩
      have hne : other ≠ id := by
        rintro rfl
        rw [hold s hs] at hs'
        cases hs'
      exact ⟨other, s, (OrderedMap.get?_set_ne _ _ hne).trans hs, hs'⟩
  refine hcases.resolve_left ?_
  rintro ⟨id, s, hs, hunknown⟩
  rw [hknown id s hs] at hunknown
  cases hunknown

/-- The provisional summaries belong to members, each under the name of its function. -/
def Provides (r : Resolver) (members : List String) (provisional : NameMap Summary) : Prop :=
  ∀ id s, provisional.get? id = some s → id ∈ members ∧ s.function = id ∧
    ∃ f, r.program.functions.get? id = some f

theorem Provides.set (hprovides : r.Provides members provisional) (hkeyed : r.program.WellKeyed)
    {view : String → Option Summary} {id : String} {f : Function} {new : Summary}
    (hid : id ∈ members) (hf : r.program.functions.get? id = some f)
    (hnew : r.summarize view f = .ok new) : r.Provides members (provisional.set id new) := by
  intro other s hs
  rw [OrderedMap.get?_set] at hs
  split at hs
  · next he =>
    subst he
    cases hs
    exact ⟨hid, (function_of_summarize hnew).trans (hkeyed _ f hf), f, hf⟩
  · exact hprovides other s hs

theorem Provides.round (hprovides : r.Provides members provisional) (hkeyed : r.program.WellKeyed)
    {changed changed' : Bool}
    (h : members.foldlM (r.refine published) (provisional, changed) = .ok (next, changed')) :
    r.Provides members next :=
  round_induction h hprovides fun _ _ _ _ hid htable hf _ hnew => htable.set hkeyed hid hf hnew

theorem exists_get?_of_round {ids : List String} {changed changed' : Bool}
    (h : ids.foldlM (r.refine published) (provisional, changed) = .ok (next, changed')) {id : String}
    {s : Summary} (hs : provisional.get? id = some s) : ∃ t, next.get? id = some t := by
  refine round_induction (motive := fun table => ∃ t, table.get? id = some t) h ⟨s, hs⟩ ?_
  exact fun table other f new _ htable _ _ _ => OrderedMap.exists_get?_set htable other new

theorem summarised_of_round {ids : List String} {changed changed' : Bool}
    (h : ids.foldlM (r.refine published) (provisional, changed) = .ok (next, changed')) {id : String}
    (hid : id ∈ ids) {f : Function} (hf : r.program.functions.get? id = some f) :
    ∃ s, next.get? id = some s := by
  induction ids generalizing provisional changed with
  | nil => exact absurd hid List.not_mem_nil
  | cons other rest ih =>
    rw [List.foldlM_cons] at h
    obtain ⟨⟨mid, changedMid⟩, hfirst, hrest⟩ := Result.exists_of_bind_eq_ok h
    rcases List.mem_cons.1 hid with rfl | hid
    · rcases refine_cases hfirst with ⟨rfl, -, hsettles⟩ | ⟨g, new, -, -, -, rfl, -⟩
      · obtain ⟨s, hs, -⟩ := hsettles f hf
        exact exists_get?_of_round hrest hs
      · exact exists_get?_of_round hrest (OrderedMap.get?_set_self _ id new)
    · exact ih hrest hid

theorem settles_of_round {ids : List String} {changed : Bool}
    (h : ids.foldlM (r.refine published) (provisional, changed) = .ok (next, false)) :
    changed = false ∧ next = provisional ∧ ∀ id ∈ ids, r.Settles published next id := by
  induction ids generalizing provisional changed with
  | nil =>
    cases h
    exact ⟨rfl, rfl, fun id hid => absurd hid List.not_mem_nil⟩
  | cons id rest ih =>
    rw [List.foldlM_cons] at h
    obtain ⟨⟨mid, changedMid⟩, hfirst, hrest⟩ := Result.exists_of_bind_eq_ok h
    obtain ⟨hmid, rfl, hall⟩ := ih hrest
    rcases refine_cases hfirst with ⟨rfl, rfl, hsettles⟩ | ⟨f, new, -, -, -, -, rfl⟩
    · refine ⟨hmid, rfl, fun other ho => ?_⟩
      rcases List.mem_cons.1 ho with rfl | ho
      · exact hsettles
      · exact hall other ho
    · cases hmid

/-! ### Rounds until nothing changes -/

theorem Provides.rounds (hprovides : r.Provides members provisional) (hkeyed : r.program.WellKeyed)
    {n : Nat} {settled : Bool} (h : r.rounds published members n provisional = .ok (next, settled)) :
    r.Provides members next :=
  rounds_induction h hprovides fun _ _ _ _ hid htable hf _ hnew => htable.set hkeyed hid hf hnew

theorem summarised_of_rounds {n : Nat} (hn : 0 < n) {settled : Bool}
    (h : r.rounds published members n provisional = .ok (next, settled)) {id : String}
    (hid : id ∈ members) {f : Function} (hf : r.program.functions.get? id = some f) :
    ∃ s, next.get? id = some s := by
  obtain ⟨n, rfl⟩ := Nat.exists_eq_succ_of_ne_zero hn.ne'
  rw [Resolver.rounds] at h
  obtain ⟨⟨mid, changed⟩, hround, h⟩ := Result.exists_of_bind_eq_ok h
  have hmid := summarised_of_round hround hid hf
  dsimp only at h
  split at h
  · refine rounds_induction (motive := fun table => ∃ t, table.get? id = some t) h hmid ?_
    exact fun table other g new _ htable _ _ _ => OrderedMap.exists_get?_set htable other new
  · cases h
    exact hmid

theorem settles_of_rounds {n : Nat}
    (h : r.rounds published members n provisional = .ok (next, true)) :
    ∀ id ∈ members, r.Settles published next id := by
  induction n generalizing provisional with
  | zero => cases h
  | succ n ih =>
    rw [Resolver.rounds] at h
    obtain ⟨⟨mid, changed⟩, hround, h⟩ := Result.exists_of_bind_eq_ok h
    dsimp only at h
    split at h
    · exact ih h
    · next hchanged =>
      cases h
      rw [Bool.not_eq_true] at hchanged
      subst hchanged
      exact (settles_of_round hround).2.2

/-- One round is enough for a function that does not call itself. -/
theorem settles_of_single {id : String} {f : Function} {changed : Bool}
    (hf : r.program.functions.get? id = some f) (hcalls : ¬ f.Calls r.program.functionIds id)
    (h : [id].foldlM (r.refine published) (provisional, false) = .ok (next, changed)) :
    r.Settles published next id := by
  rw [List.foldlM_cons] at h
  obtain ⟨⟨mid, changedMid⟩, hfirst, hrest⟩ := Result.exists_of_bind_eq_ok h
  cases hrest
  rcases refine_cases hfirst with ⟨rfl, -, hsettles⟩ | ⟨g, new, hg, hnew, -, rfl, -⟩
  · exact hsettles
  · intro g' hg'
    rw [hf, Option.some.injEq] at hg hg'
    subst hg hg'
    refine ⟨new, OrderedMap.get?_set_self _ _ _, Or.inr ⟨new, ?_, Effect.same_refl _⟩⟩
    rw [← hnew]
    refine summarize_congr fun callee hcallee => ?_
    have hne : callee ≠ id := fun he => hcalls (he ▸ hcallee)
    unfold view
    rw [OrderedMap.get?_set_ne _ _ hne]

/-! ### The summaries of a component -/

def membersOf (r : Resolver) (component : Names) : List String :=
  component.toList.filter (fun id => id ∈ r.valid)

theorem mem_membersOf_iff {component : Names} {id : String} :
    id ∈ r.membersOf component ↔ id ∈ component ∧ id ∈ r.valid := by
  simp [membersOf, OrderedSet.mem_def]

def budgetOf (r : Resolver) (component : Names) : Int :=
  if r.graph.isRecursive component then r.limits.maxRounds else 1

def failedMembers (r : Resolver) (component : Names) : List Summary :=
  (r.membersOf component).filterMap (fun id =>
    (r.program.functions.get? id).map (fun f => .failed id f.contentHash
      (Fault.divergence (Text.joinWith ", " (r.membersOf component)) (.whole r.limits.maxRounds))))

/-- Gives a component up, if the number of its rounds can be shown. -/
def giveUp (r : Resolver) (component : Names) : Result (List Summary) := do
  let shown ← (Document.whole r.limits.maxRounds).showable
  return (r.membersOf component).filterMap (fun id =>
    (r.program.functions.get? id).map (fun f => .failed id f.contentHash
      (Fault.divergence (Text.joinWith ", " (r.membersOf component)) shown)))

theorem giveUp_eq (r : Resolver) (component : Names) : r.giveUp component =
    if r.limits.maxRounds.natAbs < Nat.pow 10 digitLimit then .ok (r.failedMembers component)
    else .error (.invalid .unshowable) := by
  have hshown : (Document.whole r.limits.maxRounds).showable =
      if r.limits.maxRounds.natAbs < Nat.pow 10 digitLimit then .ok (.whole r.limits.maxRounds)
      else .error (.invalid .unshowable) := rfl
  rw [giveUp, hshown]
  by_cases h : r.limits.maxRounds.natAbs < Nat.pow 10 digitLimit
  · rw [if_pos h, if_pos h]
    rfl
  · rw [if_neg h, if_neg h]
    rfl

theorem giveUp_eq_ok_iff {component : Names} {results : List Summary} : r.giveUp component = .ok results ↔
    r.limits.maxRounds.natAbs < Nat.pow 10 digitLimit ∧ r.failedMembers component = results := by
  rw [giveUp_eq, ite_eq_iff]
  simp

theorem giveUp_eq_error_iff {component : Names} {fault : Fault} : r.giveUp component = .error fault ↔
    Nat.pow 10 digitLimit ≤ r.limits.maxRounds.natAbs ∧ .invalid .unshowable = fault := by
  rw [giveUp_eq, ite_eq_iff]
  simp

theorem summarizeComponent_eq (r : Resolver) (published : NameMap Summary) (component : Names) :
    r.summarizeComponent published component = (do
      let (provisional, settled) ←
        r.rounds published (r.membersOf component) (r.budgetOf component).toNat ∅
      if settled || r.budgetOf component = 1 then return provisional.values
      else r.giveUp component) := rfl

-- whether a number can be shown is not to be computed
attribute [irreducible] giveUp

/-- The summaries of a component are those of its rounds, or it was given up. -/
theorem results_cases {component : Names} {results : List Summary}
    (h : r.summarizeComponent published component = .ok results) :
    ∃ next settled, r.rounds published (r.membersOf component) (r.budgetOf component).toNat ∅ =
        .ok (next, settled) ∧
      ((settled = true ∨ r.budgetOf component = 1) ∧ results = next.values ∨
        settled = false ∧ r.budgetOf component ≠ 1 ∧ results = r.failedMembers component) := by
  rw [summarizeComponent_eq] at h
  obtain ⟨⟨next, settled⟩, hloop, h⟩ := Result.exists_of_bind_eq_ok h
  refine ⟨next, settled, hloop, ?_⟩
  dsimp only at h
  split at h
  · next hdone => exact Or.inl ⟨by simpa using hdone, (Except.ok.inj h).symm⟩
  · next hdone =>
    obtain ⟨hsettled, hbudget⟩ : settled = false ∧ r.budgetOf component ≠ 1 := by simpa using hdone
    exact Or.inr ⟨hsettled, hbudget, (giveUp_eq_ok_iff.1 h).2.symm⟩

theorem exists_of_mem_failedMembers {component : Names} {s : Summary} (h : s ∈ r.failedMembers component) :
    ∃ id f error, id ∈ r.membersOf component ∧ r.program.functions.get? id = some f ∧
      s = .failed id f.contentHash error := by
  obtain ⟨id, hid, he⟩ := List.mem_filterMap.1 h
  obtain ⟨f, hf, rfl⟩ := Option.map_eq_some_iff.1 he
  exact ⟨id, f, _, hid, hf, rfl⟩

/-- What is published for a component: a summary for each member, and those that are not unknown agree
with each other and with what was published before. -/
structure ComponentSpec (r : Resolver) (published : NameMap Summary) (members : List String)
    (results : List Summary) : Prop where
  owned : ∀ s ∈ results, s.function ∈ members
  nodup : (results.map Summary.function).Nodup
  complete : ∀ id ∈ members, ∃ s ∈ results, s.function = id
  consistent : ∀ s ∈ results, s.unknown = false → ∀ f,
    r.program.functions.get? s.function = some f → ∀ table : String → Option Summary,
      (∀ callee, f.Calls r.program.functionIds callee →
        (∀ t ∈ results, t.function = callee → table callee = some t) ∧
          (callee ∉ members → table callee = published.get? callee)) →
      ∃ new, r.summarize table f = .ok new ∧ new.toEffect.same s.toEffect = true

theorem Provides.mem_values_iff (h : r.Provides members next) {s : Summary} :
    s ∈ next.values ↔ next.get? s.function = some s := by
  rw [OrderedMap.mem_values_iff]
  constructor
  · rintro ⟨id, hs⟩
    rw [(h id s hs).2.1]
    exact hs
  · intro hs
    exact ⟨s.function, hs⟩

theorem Provides.nodup_values (h : r.Provides members next) :
    (next.values.map Summary.function).Nodup := by
  have hkeys : next.values.map Summary.function = next.entries.map Prod.fst := by
    rw [OrderedMap.values, List.map_map]
    refine List.map_congr_left fun entry he => ?_
    exact (h entry.1 entry.2 (OrderedMap.mem_entries_iff.1 he)).2.1
  rw [hkeys]
  exact next.nodup_keys

theorem componentSpec_values (hprovides : r.Provides members next)
    (hcomplete : ∀ id ∈ members, ∃ s, next.get? id = some s)
    (hsettles : ∀ id ∈ members, r.Settles published next id) :
    r.ComponentSpec published members next.values := by
  refine ⟨?_, hprovides.nodup_values, ?_, ?_⟩
  · intro s hs
    exact (hprovides _ s (hprovides.mem_values_iff.1 hs)).1
  · intro id hid
    obtain ⟨s, hs⟩ := hcomplete id hid
    have hfunction := (hprovides id s hs).2.1
    exact ⟨s, hprovides.mem_values_iff.2 (hfunction ▸ hs), hfunction⟩
  · intro s hs hknown f hf table htable
    have hget := hprovides.mem_values_iff.1 hs
    obtain ⟨t, ht, hcase⟩ := hsettles _ (hprovides _ s hget).1 f hf
    rw [hget, Option.some.injEq] at ht
    subst ht
    rcases hcase with hunknown | ⟨new, hnew, hsame⟩
    · rw [hknown] at hunknown
      cases hunknown
    · refine ⟨new, ?_, hsame⟩
      rw [← hnew]
      refine summarize_congr fun callee hcallee => ?_
      obtain ⟨hinside, houtside⟩ := htable callee hcallee
      unfold view
      cases ht : next.get? callee with
      | some t =>
        have hfunction := (hprovides callee t ht).2.1
        exact hinside t (hprovides.mem_values_iff.2 (hfunction ▸ ht)) hfunction
      | none =>
        refine houtside fun hmember => ?_
        obtain ⟨t, hsome⟩ := hcomplete callee hmember
        rw [ht] at hsome
        cases hsome

theorem componentSpec_failed (hnodup : members.Nodup)
    (hfunctions : ∀ id ∈ members, ∃ f, r.program.functions.get? id = some f) (error : String) :
    r.ComponentSpec published members (members.filterMap (fun id =>
      (r.program.functions.get? id).map (fun f => .failed id f.contentHash error))) := by
  have hmem : ∀ s, s ∈ members.filterMap (fun id => (r.program.functions.get? id).map
      (fun f => Summary.failed id f.contentHash error)) →
      s.unknown = true ∧ s.function ∈ members := by
    intro s hs
    obtain ⟨id, hid, he⟩ := List.mem_filterMap.1 hs
    obtain ⟨f, -, rfl⟩ := Option.map_eq_some_iff.1 he
    exact ⟨rfl, hid⟩
  refine ⟨fun s hs => (hmem s hs).2, ?_, ?_, ?_⟩
  · have hfun : (members.filterMap (fun id => (r.program.functions.get? id).map
        (fun f => Summary.failed id f.contentHash error))).map Summary.function = members := by
      clear hmem hnodup
      induction members with
      | nil => rfl
      | cons id rest ih =>
        obtain ⟨f, hf⟩ := hfunctions id List.mem_cons_self
        simp only [List.filterMap_cons, hf, Option.map_some, List.map_cons]
        rw [ih fun other ho => hfunctions other (List.mem_cons_of_mem id ho)]
        rfl
    rw [hfun]
    exact hnodup
  · intro id hid
    obtain ⟨f, hf⟩ := hfunctions id hid
    refine ⟨.failed id f.contentHash error, List.mem_filterMap.2 ⟨id, hid, ?_⟩, rfl⟩
    rw [hf]
    rfl
  · intro s hs hknown
    rw [(hmem s hs).1] at hknown
    cases hknown

/-- A component either settles or fails, if a recursive one has not a single round. -/
theorem summarizeComponent_cases
    (hvalid : ∀ id ∈ r.valid, ∃ f, r.program.functions.get? id = some f)
    (hself : ∀ id f, r.program.functions.get? id = some f → f.Calls r.program.functionIds id →
      id ∈ r.graph.callees.successors id) {component : Names}
    (hrounds : r.graph.isRecursive component = true → r.limits.maxRounds ≠ 1) {results : List Summary}
    (h : r.summarizeComponent published component = .ok results) :
    (∃ n next settled, 0 < n ∧
      r.rounds published (r.membersOf component) n ∅ = .ok (next, settled) ∧
      (∀ id ∈ r.membersOf component, r.Settles published next id) ∧ results = next.values) ∨
      (r.graph.isRecursive component = true ∧ results = r.failedMembers component) := by
  obtain ⟨next, settled, hloop, h⟩ := results_cases h
  by_cases hrecursive : r.graph.isRecursive component = true
  · have hbudget : r.budgetOf component = r.limits.maxRounds := if_pos hrecursive
    rw [hbudget] at hloop h
    rcases h with ⟨hsettled, rfl⟩ | ⟨-, -, hfailed⟩
    · obtain rfl := hsettled.resolve_right (hrounds hrecursive)
      have hpos : 0 < r.limits.maxRounds.toNat := by
        by_contra hzero
        rw [Nat.eq_zero_of_not_pos hzero, rounds] at hloop
        cases hloop
      exact Or.inl ⟨_, next, true, hpos, hloop, settles_of_rounds hloop, rfl⟩
    · exact Or.inr ⟨hrecursive, hfailed⟩
  · have hbudget : r.budgetOf component = 1 := if_neg hrecursive
    rw [hbudget] at hloop h
    have hone : (1 : Int).toNat = 1 := rfl
    rw [hone] at hloop
    obtain ⟨-, rfl⟩ := h.resolve_right fun h => h.2.1 rfl
    refine Or.inl ⟨1, next, settled, Nat.one_pos, hloop, ?_, rfl⟩
    -- the component has one member, which does not call itself
    obtain ⟨id, hlist, hnot⟩ : ∃ id, component.toList = [id] ∧
        id ∉ r.graph.callees.successors id := by
      unfold CallGraph.isRecursive at hrecursive
      split at hrecursive
      · next id hlist => exact ⟨id, hlist, by simpa using hrecursive⟩
      · exact absurd rfl hrecursive
    intro other hother
    have hmember := mem_membersOf_iff.1 hother
    have heq : other = id := by
      have hin : other ∈ component.toList := hmember.1
      rw [hlist] at hin
      exact List.mem_singleton.1 hin
    subst heq
    have hmembers : r.membersOf component = [other] := by
      rw [membersOf, hlist]
      simp [hmember.2]
    rw [hmembers, rounds] at hloop
    obtain ⟨⟨mid, changed⟩, hround, hrest⟩ := Result.exists_of_bind_eq_ok hloop
    have hmid : mid = next := by
      dsimp only at hrest
      split at hrest
      · rw [rounds] at hrest
        cases hrest
        rfl
      · cases hrest
        rfl
    subst hmid
    obtain ⟨f, hf⟩ := hvalid other hmember.2
    exact settles_of_single hf (fun hcalls => hnot (hself other f hf hcalls)) hround

theorem provides_empty (r : Resolver) (members : List String) : r.Provides members ∅ := by
  intro id s hs
  cases hs

/-- **The summaries of a component agree with each other**, if the members of a recursive one have two
rounds at least. -/
theorem componentSpec_of_summarizeComponent (hkeyed : r.program.WellKeyed)
    (hvalid : ∀ id ∈ r.valid, ∃ f, r.program.functions.get? id = some f)
    (hself : ∀ id f, r.program.functions.get? id = some f → f.Calls r.program.functionIds id →
      id ∈ r.graph.callees.successors id)
    (hrounds : 2 ≤ r.limits.maxRounds) {component : Names} {results : List Summary}
    (h : r.summarizeComponent published component = .ok results) :
    r.ComponentSpec published (r.membersOf component) results := by
  have hfunctions : ∀ id ∈ r.membersOf component, ∃ f, r.program.functions.get? id = some f :=
    fun id hid => hvalid id (mem_membersOf_iff.1 hid).2
  rcases summarizeComponent_cases hvalid hself (fun _ => by omega) h with
    ⟨n, next, settled, hn, hloop, hsettles, rfl⟩ | ⟨-, rfl⟩
  · refine componentSpec_values ((r.provides_empty _).rounds hkeyed hloop) (fun id hid => ?_) hsettles
    obtain ⟨f, hf⟩ := hfunctions id hid
    exact summarised_of_rounds hn hloop hid hf
  · exact componentSpec_failed (component.nodup_toList.filter _) hfunctions _

end Resolver

end TaintFlow
