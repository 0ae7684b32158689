import TaintFlow.Proofs.Summary.Published

/-!
# What is published when a component is summarised

Before a component is summarised, none of its members is published, and no published summary says that
a label with a marker is made (`Resolver.Ready`).  Every resolution from nothing comes to each of its
components in this way (`ready_of_layers`), if no function that could be read shares its id with one
that could not.
-/

namespace TaintFlow

/-- No label that the summary says is made has a marker. -/
def Summary.Unmarked (s : Summary) : Prop :=
  ∀ output i, s.Has (.made output i) → i.symbols = ∅

theorem Summary.unmarked_failed (function contentHash error : String) :
    (failed function contentHash error).Unmarked := by
  intro output i hi
  cases hi

namespace Resolver

variable {r : Resolver} {published : NameMap Summary} {component : Names}

/-- What stands in the table when a component is summarised. -/
structure Ready (r : Resolver) (published : NameMap Summary) (component : Names) : Prop where
  unpublished : ∀ id ∈ r.membersOf component, published.get? id = none
  unmarked : ∀ id s, published.get? id = some s → s.Unmarked

theorem unmarked_of_summarize {view : String → Option Summary} {f : Function} {s : Summary}
    (h : r.summarize view f = .ok s) : s.Unmarked := by
  rcases summarize_cases h with ⟨a, -, rfl⟩ | ⟨error, rfl⟩
  · exact fun output i hi => Summary.symbols_of_made hi
  · exact Summary.unmarked_failed _ _ _

/-- No round says that a label with a marker is made. -/
theorem unmarked_of_rounds {published next : NameMap Summary} {members : List String} {n : Nat}
    {settled : Bool} (h : r.rounds published members n ∅ = .ok (next, settled)) {id : String}
    {s : Summary} (hs : next.get? id = some s) : s.Unmarked := by
  refine rounds_induction (motive := fun table => ∀ id s, table.get? id = some s → s.Unmarked)
    h ?_ ?_ id s hs
  · intro id s hs
    cases hs
  · intro table other f new _ htable _ _ hnew id s hs
    rw [OrderedMap.get?_set] at hs
    split at hs
    · cases hs
      exact unmarked_of_summarize hnew
    · exact htable id s hs

theorem unmarked_of_summarizeComponent (hkeyed : r.program.WellKeyed) {results : List Summary}
    (h : r.summarizeComponent published component = .ok results) {s : Summary} (hs : s ∈ results) :
    s.function ∈ component ∧ s.Unmarked := by
  obtain ⟨next, settled, hloop, ⟨-, rfl⟩ | ⟨-, -, rfl⟩⟩ := results_cases h
  · obtain ⟨id, hid⟩ := OrderedMap.mem_values_iff.1 hs
    obtain ⟨hmember, hfunction, -⟩ := (r.provides_empty _).rounds hkeyed hloop id s hid
    exact ⟨hfunction ▸ (mem_membersOf_iff.1 hmember).1, unmarked_of_rounds hloop hid⟩
  · obtain ⟨id, f, error, hid, -, rfl⟩ := exists_of_mem_failedMembers hs
    exact ⟨(mem_membersOf_iff.1 hid).1, Summary.unmarked_failed _ _ _⟩

/-! ### What is published later -/

/-- The second table differs from the first one in functions of the given layers only, and there it
has summaries without markers. -/
def Adds (layers : List (List Names)) (table table' : NameMap Summary) : Prop :=
  ∀ id, table'.get? id = table.get? id ∨
    (∃ layer ∈ layers, ∃ c ∈ layer, id ∈ c) ∧ ∃ s, table'.get? id = some s ∧ s.Unmarked

theorem Adds.trans {first second : List (List Names)} {table table' table'' : NameMap Summary}
    (h : Adds first table table') (h' : Adds second table' table'') :
    Adds (first ++ second) table table'' := by
  intro id
  rcases h' id with hsame' | ⟨⟨layer, hlayer, hc⟩, hs⟩
  · rw [hsame']
    rcases h id with hsame | ⟨⟨layer, hlayer, hc⟩, hs⟩
    · exact Or.inl hsame
    · exact Or.inr ⟨⟨layer, List.mem_append_left second hlayer, hc⟩, hs⟩
  · exact Or.inr ⟨⟨layer, List.mem_append_right first hlayer, hc⟩, hs⟩

theorem get?_foldl_publish_cases (results : List Summary) (res : Resolution) (id : String) :
    (results.foldl Resolution.publish res).summaries.get? id = res.summaries.get? id ∨
      ∃ s ∈ results, s.function = id ∧
        (results.foldl Resolution.publish res).summaries.get? id = some s := by
  induction results generalizing res with
  | nil => exact Or.inl rfl
  | cons s rest ih =>
    rw [List.foldl_cons]
    rcases ih (res.publish s) with hsame | ⟨t, ht, hfunction, hget⟩
    · rw [hsame]
      have hset : (res.publish s).summaries.get? id = if id = s.function then some s
          else res.summaries.get? id := OrderedMap.get?_set _ _ _ _
      rw [hset]
      split
      · next he => exact Or.inr ⟨s, List.mem_cons_self, he.symm, rfl⟩
      · exact Or.inl rfl
    · exact Or.inr ⟨t, List.mem_cons_of_mem s ht, hfunction, hget⟩

theorem adds_of_resolveLayer (hkeyed : r.program.WellKeyed) (hprevious : r.previous = ∅)
    {layer : List Names} {res res' : Resolution} (h : r.resolveLayer res layer = .ok res') :
    Adds [layer] res.summaries res'.summaries := by
  obtain ⟨results, hresults, rfl⟩ := resolveLayer_eq_ok hprevious h
  intro id
  rcases get?_foldl_publish_cases results.flatten res id with hsame | ⟨s, hs, hfunction, hget⟩
  · exact Or.inl hsame
  · obtain ⟨rs, hrs, hs⟩ := List.mem_flatten.1 hs
    obtain ⟨c, hc, hcomponent⟩ := exists_right_of_forall₂ hresults.flip hrs
    obtain ⟨hmember, hunmarked⟩ := unmarked_of_summarizeComponent hkeyed hcomponent hs
    rw [hfunction] at hmember
    exact Or.inr ⟨⟨layer, List.mem_singleton_self layer, c, (mem_pendingOf_iff.1 hc).1, hmember⟩,
      s, hget, hunmarked⟩

theorem adds_of_foldlM (hkeyed : r.program.WellKeyed) (hprevious : r.previous = ∅)
    {layers : List (List Names)} {res res' : Resolution} {allowance left : Allowance}
    (h : layers.foldlM (fun (res, allowance) layer => do
      let allowance ← allowance.check .summaries
      return (← r.resolveLayer res layer, allowance)) (res, allowance) = .ok (res', left)) :
    Adds layers res.summaries res'.summaries := by
  induction layers generalizing res allowance with
  | nil =>
    cases h
    exact fun id => Or.inl rfl
  | cons layer rest ih =>
    rw [List.foldlM_cons] at h
    obtain ⟨⟨mid, allowance'⟩, hstep, hrest⟩ := Result.exists_of_bind_eq_ok h
    obtain ⟨checked, -, hstep⟩ := Result.exists_of_bind_eq_ok hstep
    obtain ⟨res₁, hlayer, hstep⟩ := Result.exists_of_bind_eq_ok hstep
    cases hstep
    exact (adds_of_resolveLayer hkeyed hprevious hlayer).trans (ih hrest)

/-! ### What is published from the start -/

/-- Only functions that are unfit are published, as failed ones. -/
def FailsOnly (r : Resolver) (res : Resolution) : Prop :=
  ∀ id s, res.summaries.get? id = some s → s.Unmarked ∧ r.Unfit id

/-- What every failure of an unfit function preserves holds before the first layer. -/
theorem initial_induction {motive : Resolution → Prop} (hempty : motive .empty)
    (hfail : ∀ res id contentHash error, motive res → r.Unfit id →
      motive (res.fail id contentHash error)) : motive r.initial := by
  have hunread : motive (r.program.malformed.entries.foldl (fun res entry =>
      res.fail entry.1 "" entry.2.message) .empty) := by
    refine List.foldlRecOn (motive := motive) _ _ hempty fun res hres entry he => ?_
    exact hfail _ _ _ _ hres (Or.inl ⟨entry.2, Table.mem_entries_iff.1 he⟩)
  refine List.foldlRecOn (motive := motive) _ _ hunread fun res hres entry he => ?_
  dsimp only
  cases hdefect : entry.2.defect? r.program.functionIds with
  | none => exact hres
  | some cause =>
    refine hfail _ _ _ _ hres (Or.inr ⟨entry.2, Table.mem_entries_iff.1 he, ?_⟩)
    rw [hdefect]
    exact Option.some_ne_none cause

theorem failsOnly_initial (r : Resolver) : r.FailsOnly r.initial := by
  refine initial_induction (motive := r.FailsOnly) (fun id s hs => by cases hs) ?_
  intro res function contentHash error h hunfit id s hs
  have hset : (res.fail function contentHash error).summaries.get? id =
      if id = function then some (.failed function contentHash error)
      else res.summaries.get? id := OrderedMap.get?_set _ _ _ _
  rw [hset] at hs
  split at hs
  · next he =>
    cases hs
    exact ⟨Summary.unmarked_failed _ _ _, he ▸ hunfit⟩
  · exact h id s hs

/-- **Every component of a resolution from nothing is ready** when the layers below it are done, if no
id stands both for a function that could be read and for one that could not. -/
theorem ready_of_layers {p : Program} {rules : Registry} {limits : ResolveLimits}
    (hkeyed : p.WellKeyed)
    (hread : ∀ id f, p.functions.get? id = some f → p.malformed.get? id = none)
    {done rest : List (List Names)} {layer : List Names}
    (hlayers : (ofProgram p rules limits ∅).graph.layers = done ++ layer :: rest)
    (hcomponent : component ∈ layer) {res : Resolution} {allowance left : Allowance}
    (h : done.foldlM (fun (res, allowance) layer => do
      let allowance ← allowance.check .summaries
      return (← (ofProgram p rules limits ∅).resolveLayer res layer, allowance))
        ((ofProgram p rules limits ∅).initial, allowance) = .ok (res, left)) :
    (ofProgram p rules limits ∅).Ready res.summaries component := by
  have hadds := adds_of_foldlM (r := ofProgram p rules limits ∅) hkeyed rfl h
  have hlayered := CallGraph.layered_layers (ofProgram p rules limits ∅).graph rfl
  refine ⟨?_, ?_⟩
  · intro id hid
    obtain ⟨hmember, hvalid⟩ := mem_membersOf_iff.1 hid
    rcases hadds id with hsame | ⟨⟨lower, hlower, c, hc, hin⟩, -⟩
    · rw [hsame]
      cases hget : (ofProgram p rules limits ∅).initial.summaries.get? id with
      | none => rfl
      | some s =>
        exact absurd (failsOnly_initial _ id s hget).2
          (not_unfit_of_mem_validFunctions (hread id) hvalid)
    · exact absurd hin (hlayered.fresh done layer rest hlayers component hcomponent id hmember lower
        hlower c hc)
  · intro id s hs
    rcases hadds id with hsame | ⟨-, t, ht, hunmarked⟩
    · rw [hsame] at hs
      exact (failsOnly_initial _ id s hs).1
    · rw [hs, Option.some.injEq] at ht
      exact ht ▸ hunmarked

end Resolver

end TaintFlow
