import Mathlib.Data.List.Forall2
import TaintFlow.Program.Decode
import TaintFlow.Proofs.CallGraph.Layers
import TaintFlow.Proofs.Flow.Exact
import TaintFlow.Proofs.Summary.Rounds

/-!
# The published summaries are a fixpoint

Layer by layer every function gets a summary.  A layer is summarised from what was published for lower
layers, which no later layer changes, and a function calls into its own component and into lower layers
only.  So in the end each summary that is not unknown says what a new summary, made from the published
ones, would say (`published_fixpoint`).
-/

namespace TaintFlow

namespace Resolver

variable {r : Resolver}

/-- Made from the published summaries, a new summary of the function would say the same, unless the
published one is unknown. -/
def Consistent (r : Resolver) (table : NameMap Summary) (id : String) : Prop :=
  ∀ f s, r.program.functions.get? id = some f → table.get? id = some s → s.unknown = false →
    ∃ new, r.summarize table.get? f = .ok new ∧ new.toEffect.same s.toEffect = true

theorem Consistent.congr {table table' : NameMap Summary} {id : String}
    (h : r.Consistent table id) (hid : table'.get? id = table.get? id)
    (hcalls : ∀ f, r.program.functions.get? id = some f → ∀ callee,
      f.Calls r.program.functionIds callee → table'.get? callee = table.get? callee) :
    r.Consistent table' id := by
  intro f s hf hs hknown
  rw [hid] at hs
  obtain ⟨new, hnew, hsame⟩ := h f s hf hs hknown
  refine ⟨new, ?_, hsame⟩
  rw [← hnew]
  exact summarize_congr (hcalls f hf)

/-! ### Publishing -/

theorem summaries_foldl_publish (results : List Summary) (res : Resolution) :
    (results.foldl Resolution.publish res).summaries =
      (results.map (fun s => (s.function, s))).foldl (fun m entry => m.set entry.1 entry.2)
        res.summaries := by
  induction results generalizing res with
  | nil => rfl
  | cons s rest ih =>
    rw [List.foldl_cons, ih]
    rfl

theorem get?_foldl_publish {results : List Summary} (res : Resolution)
    (hnodup : (results.map Summary.function).Nodup) :
    (∀ s ∈ results, (results.foldl Resolution.publish res).summaries.get? s.function = some s) ∧
      ∀ id, (∀ s ∈ results, s.function ≠ id) →
        (results.foldl Resolution.publish res).summaries.get? id = res.summaries.get? id := by
  have hkeys : ((results.map (fun s => (s.function, s))).map Prod.fst).Nodup := by
    rw [List.map_map]
    exact hnodup
  rw [summaries_foldl_publish]
  constructor
  · intro s hs
    rw [OrderedMap.get?_foldl_set _ _ _ hkeys]
    have hlookup := (mem_iff_lookup_eq_some hkeys).1 (List.mem_map.2 ⟨s, hs, rfl⟩)
    rw [hlookup]
    rfl
  · intro id hid
    rw [OrderedMap.get?_foldl_set _ _ _ hkeys]
    cases hlookup : (results.map (fun s => (s.function, s))).lookup id with
    | none => rfl
    | some s =>
      obtain ⟨t, ht, he⟩ := List.mem_map.1 ((mem_iff_lookup_eq_some hkeys).2 hlookup)
      exact absurd (congrArg Prod.fst he) (hid t ht)

/-! ### One layer -/

/-- Components that cannot be reused are left, in their order. -/
theorem foldl_reuse_of_none {res : Resolution} (l left : List Names)
    (hl : ∀ c ∈ l, r.reuse? res c = none) :
    l.foldl (fun (res, left) component =>
      match r.reuse? res component with
      | some res => (res, left)
      | none => (res, left ++ [component])) (res, left) = (res, left ++ l) := by
  induction l generalizing left with
  | nil => simp
  | cons c rest ih =>
    rw [List.foldl_cons]
    dsimp only
    rw [hl c List.mem_cons_self]
    dsimp only
    refine (ih (left ++ [c]) fun d hd => hl d (List.mem_cons_of_mem c hd)).trans ?_
    simp

/-- Without earlier summaries nothing is reused. -/
theorem reuseLayer_eq (hprevious : r.previous = ∅) (res : Resolution) (pending : List Names)
    (hpending : ∀ c ∈ pending, ∃ id, id ∈ c) : r.reuseLayer res pending = (res, pending) := by
  have hreuse : ∀ c ∈ pending, r.reuse? res c = none := by
    intro c hc
    obtain ⟨id, hid⟩ := hpending c hc
    have hcan : r.canReuse res c id = false := by
      unfold canReuse
      rw [hprevious]
      cases r.program.functions.get? id <;> rfl
    unfold reuse?
    rw [if_neg]
    rw [List.all_eq_true]
    intro hall
    rw [hall id hid] at hcan
    cases hcan
  exact foldl_reuse_of_none pending [] hreuse

/-- What publishing a layer changes. -/
structure LayerSpec (r : Resolver) (layer : List Names) (table table' : NameMap Summary) : Prop where
  summarised : ∀ c ∈ layer, ∀ id ∈ c, id ∈ r.valid → ∃ s, table'.get? id = some s
  kept : ∀ id, (∀ c ∈ layer, id ∈ c → id ∉ r.valid) → table'.get? id = table.get? id
  consistent : ∀ c ∈ layer, ∀ id ∈ c, id ∈ r.valid →
    (∀ f, r.program.functions.get? id = some f → ∀ callee, f.Calls r.program.functionIds callee →
      callee ∈ c ∨ ∀ d ∈ layer, callee ∉ d) →
    r.Consistent table' id

theorem exists_right_of_forall₂ {α β : Type} {R : α → β → Prop} {l : List α} {m : List β}
    (h : List.Forall₂ R l m) {a : α} (ha : a ∈ l) : ∃ b ∈ m, R a b := by
  induction h with
  | nil => exact absurd ha List.not_mem_nil
  | @cons x y _ _ hxy _ ih =>
    rcases List.mem_cons.1 ha with rfl | ha
    · exact ⟨y, List.mem_cons_self, hxy⟩
    · obtain ⟨b, hb, hab⟩ := ih ha
      exact ⟨b, List.mem_cons_of_mem y hb, hab⟩

/-- Components that share no member have results for different functions. -/
theorem nodup_flatten {pending : List Names} {results : List (List Summary)}
    (h : List.Forall₂ (fun c rs => (rs.map Summary.function).Nodup ∧ ∀ s ∈ rs, s.function ∈ c)
      pending results)
    (hdisjoint : pending.Pairwise (fun c d => ∀ v ∈ c, v ∉ d)) :
    (results.flatten.map Summary.function).Nodup := by
  induction h with
  | nil => exact .nil
  | @cons c rs pending results hspec hrest ih =>
    obtain ⟨hfirst, hpair⟩ := List.pairwise_cons.1 hdisjoint
    rw [List.flatten_cons, List.map_append]
    refine List.nodup_append.2 ⟨hspec.1, ih hpair, ?_⟩
    intro x hx y hy he
    obtain ⟨s, hs, rfl⟩ := List.mem_map.1 hx
    obtain ⟨t, ht, rfl⟩ := List.mem_map.1 hy
    obtain ⟨ts, hts, ht⟩ := List.mem_flatten.1 ht
    obtain ⟨d, hd, hspec'⟩ := exists_right_of_forall₂ hrest.flip hts
    have hsc := hspec.2 s hs
    rw [he] at hsc
    exact hfirst d hd _ hsc (hspec'.2 t ht)

def pendingOf (r : Resolver) (layer : List Names) : List Names :=
  layer.filter (fun c => c.toList.any (fun id => id ∈ r.valid))

theorem mem_pendingOf_iff {layer : List Names} {c : Names} :
    c ∈ r.pendingOf layer ↔ c ∈ layer ∧ ∃ id ∈ c, id ∈ r.valid := by
  simp [pendingOf, OrderedSet.mem_def]

/-- Without earlier summaries a layer is summarised component by component. -/
theorem resolveLayer_eq_ok (hprevious : r.previous = ∅) {layer : List Names} {res res' : Resolution}
    (h : r.resolveLayer res layer = .ok res') : ∃ results,
      List.Forall₂ (fun c rs => r.summarizeComponent res.summaries c = .ok rs) (r.pendingOf layer)
        results ∧ res' = results.flatten.foldl Resolution.publish res := by
  have hreuse := reuseLayer_eq hprevious res (r.pendingOf layer) fun c hc => by
    obtain ⟨-, id, hid, -⟩ := mem_pendingOf_iff.1 hc
    exact ⟨id, hid⟩
  have h : (do
      let results ← (r.reuseLayer res (r.pendingOf layer)).2.mapM
        (r.summarizeComponent (r.reuseLayer res (r.pendingOf layer)).1.summaries)
      return results.flatten.foldl Resolution.publish (r.reuseLayer res (r.pendingOf layer)).1) =
        .ok res' := h
  rw [hreuse] at h
  obtain ⟨results, hresults, h⟩ := Result.exists_of_bind_eq_ok h
  cases h
  exact ⟨results, Result.forall₂_of_mapM hresults, rfl⟩

/-- **Publishing a layer.** -/
theorem layerSpec_of_resolveLayer (hkeyed : r.program.WellKeyed)
    (hvalid : ∀ id ∈ r.valid, ∃ f, r.program.functions.get? id = some f)
    (hself : ∀ id f, r.program.functions.get? id = some f → f.Calls r.program.functionIds id →
      id ∈ r.graph.callees.successors id)
    (hrounds : 2 ≤ r.limits.maxRounds) (hprevious : r.previous = ∅) {layer : List Names}
    (hdisjoint : layer.Pairwise (fun c d => ∀ v ∈ c, v ∉ d)) {res res' : Resolution}
    (h : r.resolveLayer res layer = .ok res') :
    r.LayerSpec layer res.summaries res'.summaries := by
  obtain ⟨results, hresults, rfl⟩ := resolveLayer_eq_ok hprevious h
  have hspecs : List.Forall₂ (fun c rs => r.ComponentSpec res.summaries (r.membersOf c) rs)
      (r.pendingOf layer) results :=
    hresults.imp fun c rs hc => componentSpec_of_summarizeComponent hkeyed hvalid hself hrounds hc
  have howned : List.Forall₂ (fun c rs => (rs.map Summary.function).Nodup ∧ ∀ s ∈ rs, s.function ∈ c)
      (r.pendingOf layer) results :=
    hspecs.imp fun c rs h => ⟨h.nodup, fun s hs => (mem_membersOf_iff.1 (h.owned s hs)).1⟩
  obtain ⟨hget, hkeep⟩ := get?_foldl_publish res
    (nodup_flatten howned (hdisjoint.sublist List.filter_sublist))
  have hkept : ∀ id, (∀ c ∈ layer, id ∈ c → id ∉ r.valid) →
      (results.flatten.foldl Resolution.publish res).summaries.get? id = res.summaries.get? id := by
    intro id hid
    refine hkeep id fun s hs he => ?_
    obtain ⟨rs, hrs, hs⟩ := List.mem_flatten.1 hs
    obtain ⟨c, hc, hspec⟩ := exists_right_of_forall₂ hspecs.flip hrs
    obtain ⟨hsc, hsv⟩ := mem_membersOf_iff.1 (hspec.owned s hs)
    rw [he] at hsc hsv
    exact hid c (mem_pendingOf_iff.1 hc).1 hsc hsv
  have hfind : ∀ c ∈ layer, ∀ id ∈ c, id ∈ r.valid → ∃ rs ∈ results,
      r.ComponentSpec res.summaries (r.membersOf c) rs := by
    intro c hc id hid hv
    exact exists_right_of_forall₂ hspecs (mem_pendingOf_iff.2 ⟨hc, id, hid, hv⟩)
  refine ⟨?_, hkept, ?_⟩
  · intro c hc id hid hv
    obtain ⟨rs, hrs, hspec⟩ := hfind c hc id hid hv
    obtain ⟨s, hs, rfl⟩ := hspec.complete id (mem_membersOf_iff.2 ⟨hid, hv⟩)
    exact ⟨s, hget s (List.mem_flatten.2 ⟨rs, hrs, hs⟩)⟩
  · intro c hc id hid hv hcalls f s hf hs hknown
    obtain ⟨rs, hrs, hspec⟩ := hfind c hc id hid hv
    obtain ⟨t, ht, rfl⟩ := hspec.complete id (mem_membersOf_iff.2 ⟨hid, hv⟩)
    rw [hget t (List.mem_flatten.2 ⟨rs, hrs, ht⟩), Option.some.injEq] at hs
    subst hs
    refine hspec.consistent t ht hknown f hf _ fun callee hcallee => ⟨?_, ?_⟩
    · intro u hu he
      rw [← he]
      exact hget u (List.mem_flatten.2 ⟨rs, hrs, hu⟩)
    · intro hnot
      refine hkept callee fun d hd hcd hvc => ?_
      rcases hcalls f hf callee hcallee with hin | hout
      · exact hnot (mem_membersOf_iff.2 ⟨hin, hvc⟩)
      · exact hout d hd hcd

/-! ### All layers -/

/-- What is published when some layers are done. -/
structure Published (r : Resolver) (done : List (List Names)) (table : NameMap Summary) : Prop where
  failed : ∀ id ∈ r.program.functionIds, id ∉ r.valid → ∃ s, table.get? id = some s ∧ s.unknown = true
  summarised : ∀ layer ∈ done, ∀ c ∈ layer, ∀ id ∈ c, id ∈ r.valid → ∃ s, table.get? id = some s
  consistent : ∀ layer ∈ done, ∀ c ∈ layer, ∀ id ∈ c, id ∈ r.valid → r.Consistent table id

/-- **A layer more.**  What was published for lower layers stays, and so does what it was made of. -/
theorem Published.next {layers done rest : List (List Names)} {layer : List Names}
    {table table' : NameMap Summary} (h : r.Published done table)
    (hspec : r.LayerSpec layer table table')
    (hlayered : CallGraph.Layered r.graph.callees layers) (hsplit : layers = done ++ layer :: rest)
    (hedge : ∀ id f, r.program.functions.get? id = some f → ∀ callee,
      f.Calls r.program.functionIds callee → r.graph.callees.Edge id callee) :
    r.Published (done ++ [layer]) table' := by
  have hlower : ∀ lower ∈ done, ∀ c ∈ lower, ∀ id ∈ c, table'.get? id = table.get? id := by
    intro lower hl c hc id hid
    refine hspec.kept id fun d hd hidd => ?_
    exact absurd hid (hlayered.fresh done layer rest hsplit d hd id hidd lower hl c hc)
  refine ⟨?_, ?_, ?_⟩
  · intro id hid hnot
    rw [hspec.kept id fun c _ _ => hnot]
    exact h.failed id hid hnot
  · intro lower hl c hc id hid hv
    rcases List.mem_append.1 hl with hl | hl
    · rw [hlower lower hl c hc id hid]
      exact h.summarised lower hl c hc id hid hv
    · rw [List.mem_singleton.1 hl] at hc
      exact hspec.summarised c hc id hid hv
  · intro lower hl c hc id hid hv
    rcases List.mem_append.1 hl with hl | hl
    · refine (h.consistent lower hl c hc id hid hv).congr (hlower lower hl c hc id hid) ?_
      intro f hf callee hcallee
      obtain ⟨before, after, hparts⟩ := List.append_of_mem hl
      have hwhole : layers = before ++ lower :: (after ++ layer :: rest) := by
        rw [hsplit, hparts]
        simp
      rcases hlayered.lower before lower _ hwhole c hc id hid callee (hedge id f hf callee hcallee) with
        hin | ⟨under, hunder, d, hd, hin⟩
      · exact hlower lower hl c hc callee hin
      · refine hlower under ?_ d hd callee hin
        rw [hparts]
        exact List.mem_append_left _ hunder
    · rw [List.mem_singleton.1 hl] at hc
      refine hspec.consistent c hc id hid hv fun f hf callee hcallee => ?_
      rcases hlayered.lower done layer rest hsplit c hc id hid callee
          (hedge id f hf callee hcallee) with hin | ⟨under, hunder, d, hd, hin⟩
      · exact Or.inl hin
      · refine Or.inr fun e he hcallee => ?_
        exact hlayered.fresh done layer rest hsplit e he callee hcallee under hunder d hd hin

def Failed (res : Resolution) (id : String) : Prop :=
  ∃ s, res.summaries.get? id = some s ∧ s.unknown = true

theorem failed_fail (res : Resolution) (function contentHash error : String) :
    Failed (res.fail function contentHash error) function :=
  ⟨.failed function contentHash error, OrderedMap.get?_set_self _ _ _, rfl⟩

theorem Failed.fail {res : Resolution} {id : String} (h : Failed res id)
    (function contentHash error : String) : Failed (res.fail function contentHash error) id := by
  by_cases he : id = function
  · subst he
    exact failed_fail res id contentHash error
  · obtain ⟨s, hs, hunknown⟩ := h
    refine ⟨s, ?_, hunknown⟩
    rw [← hs]
    exact OrderedMap.get?_set_ne _ _ he

theorem failed_foldl {α : Type} {step : Resolution → α → Resolution} (fails : α → String → Prop)
    (hkeep : ∀ res a id, Failed res id → Failed (step res a) id)
    (hfail : ∀ res a id, fails a id → Failed (step res a) id) {l : List α} {res : Resolution}
    {id : String} (h : Failed res id ∨ ∃ a ∈ l, fails a id) : Failed (l.foldl step res) id := by
  induction l generalizing res with
  | nil =>
    rcases h with h | ⟨a, ha, -⟩
    · exact h
    · exact absurd ha List.not_mem_nil
  | cons a rest ih =>
    refine ih ?_
    rcases h with h | ⟨b, hb, hfails⟩
    · exact Or.inl (hkeep res a id h)
    · rcases List.mem_cons.1 hb with rfl | hb
      · exact Or.inl (hfail res b id hfails)
      · exact Or.inr ⟨b, hb, hfails⟩

theorem mem_validFunctions_iff {p : Program} {id : String} : id ∈ validFunctions p ↔
    ∃ f, p.functions.get? id = some f ∧ f.defect? p.functionIds = none := by
  rw [validFunctions, OrderedSet.mem_ofList, List.mem_map]
  constructor
  · rintro ⟨⟨other, f⟩, hmem, rfl⟩
    obtain ⟨hmem, hvalid⟩ := List.mem_filter.1 hmem
    exact ⟨f, Table.mem_entries_iff.1 hmem, Option.isNone_iff_eq_none.1 hvalid⟩
  · rintro ⟨f, hf, hdefect⟩
    exact ⟨(id, f), List.mem_filter.2 ⟨Table.mem_entries_iff.2 hf,
      Option.isNone_iff_eq_none.2 hdefect⟩, rfl⟩

theorem exists_function_of_mem_valid {p : Program} {id : String} (h : id ∈ validFunctions p) :
    ∃ f, p.functions.get? id = some f := by
  obtain ⟨f, hf, -⟩ := mem_validFunctions_iff.1 h
  exact ⟨f, hf⟩

theorem mem_functionIds_iff {p : Program} {id : String} : id ∈ p.functionIds ↔
    (∃ f, p.functions.get? id = some f) ∨ ∃ what, p.malformed.get? id = some what := by
  rw [Program.functionIds, OrderedSet.mem_ofList, List.mem_append, Table.mem_keys_iff,
    Table.mem_keys_iff]

/-- The function could not be read, or it has a defect. -/
def Unfit (r : Resolver) (id : String) : Prop :=
  (∃ what, r.program.malformed.get? id = some what) ∨
    ∃ f, r.program.functions.get? id = some f ∧ f.defect? r.program.functionIds ≠ none

theorem unfit_of_not_mem_valid (hvalid : r.valid = validFunctions r.program) {id : String}
    (hid : id ∈ r.program.functionIds) (hnot : id ∉ r.valid) : r.Unfit id := by
  rcases mem_functionIds_iff.1 hid with ⟨f, hf⟩ | hmalformed
  · refine Or.inr ⟨f, hf, fun hnone => hnot ?_⟩
    rw [hvalid, mem_validFunctions_iff]
    exact ⟨f, hf, hnone⟩
  · exact Or.inl hmalformed

/-- A valid function is fit, unless another one with its id could not be read. -/
theorem not_unfit_of_mem_validFunctions {p : Program} {rules : Registry} {limits : ResolveLimits}
    {previous : NameMap Summary} {id : String}
    (hread : ∀ f, p.functions.get? id = some f → p.malformed.get? id = none)
    (hv : id ∈ validFunctions p) : ¬ (ofProgram p rules limits previous).Unfit id := by
  obtain ⟨f, hf, hdefect⟩ := mem_validFunctions_iff.1 hv
  rintro (⟨what, hwhat⟩ | ⟨g, hg, hnot⟩)
  · cases (hread f hf).symm.trans hwhat
  · obtain rfl : f = g := Option.some.inj (hf.symm.trans hg)
    exact hnot hdefect

theorem failed_initial {id : String} (h : r.Unfit id) : Failed r.initial id := by
  unfold initial
  refine failed_foldl (fun entry other => entry.1 = other ∧
    (entry.2.defect? r.program.functionIds).isSome = true) ?_ ?_ ?_
  · rintro res ⟨other, f⟩ id h
    dsimp only
    cases f.defect? r.program.functionIds with
    | none => exact h
    | some cause => exact h.fail _ _ _
  · rintro res ⟨other, f⟩ id ⟨rfl, hdefect⟩
    dsimp only at hdefect ⊢
    cases hd : f.defect? r.program.functionIds with
    | none =>
      rw [hd] at hdefect
      cases hdefect
    | some cause => exact failed_fail _ _ _ _
  · rcases h with ⟨what, hwhat⟩ | ⟨f, hf, hdefect⟩
    · refine Or.inl (failed_foldl (fun entry other => entry.1 = other) ?_ ?_ ?_)
      · exact fun res entry id h => h.fail _ _ _
      · rintro res entry id rfl
        exact failed_fail _ _ _ _
      · exact Or.inr ⟨(id, what), Table.mem_entries_iff.2 hwhat, rfl⟩
    · exact Or.inr ⟨(id, f), Table.mem_entries_iff.2 hf, rfl, Option.isSome_iff_ne_none.2 hdefect⟩

theorem published_initial (hvalid : r.valid = validFunctions r.program) :
    r.Published [] r.initial.summaries where
  failed _ hid hnot := failed_initial (unfit_of_not_mem_valid hvalid hid hnot)
  summarised _ hl := absurd hl List.not_mem_nil
  consistent _ hl := absurd hl List.not_mem_nil

theorem published_of_foldlM (hkeyed : r.program.WellKeyed)
    (hvalid : ∀ id ∈ r.valid, ∃ f, r.program.functions.get? id = some f)
    (hedge : ∀ id f, r.program.functions.get? id = some f → ∀ callee,
      f.Calls r.program.functionIds callee → r.graph.callees.Edge id callee)
    (hrounds : 2 ≤ r.limits.maxRounds) (hprevious : r.previous = ∅)
    (done remaining : List (List Names))
    (hlayered : CallGraph.Layered r.graph.callees (done ++ remaining))
    {res res' : Resolution} {allowance left : Allowance} (h : r.Published done res.summaries)
    (hfold : remaining.foldlM (fun (res, allowance) layer => do
      let allowance ← allowance.check .summaries
      return (← r.resolveLayer res layer, allowance)) (res, allowance) = .ok (res', left)) :
    r.Published (done ++ remaining) res'.summaries := by
  induction remaining generalizing done res allowance with
  | nil =>
    cases hfold
    rwa [List.append_nil]
  | cons layer rest ih =>
    rw [List.foldlM_cons] at hfold
    obtain ⟨⟨mid, allowance'⟩, hstep, hfold⟩ := Result.exists_of_bind_eq_ok hfold
    obtain ⟨checked, -, hstep⟩ := Result.exists_of_bind_eq_ok hstep
    obtain ⟨res₁, hlayer, hstep⟩ := Result.exists_of_bind_eq_ok hstep
    cases hstep
    have hspec := layerSpec_of_resolveLayer hkeyed hvalid (fun id f hf => hedge id f hf id) hrounds
      hprevious (hlayered.disjoint layer (by simp)) hlayer
    have hnext := h.next hspec hlayered rfl hedge
    have hparts : done ++ layer :: rest = (done ++ [layer]) ++ rest := by simp
    rw [hparts] at hlayered ⊢
    exact ih (done ++ [layer]) hlayered hnext hfold

end Resolver

/-! ### Programs that are read -/

namespace Program

theorem WellKeyed.addFunction {p : Program} (h : p.WellKeyed) (f : Function) :
    (p.addFunction f).WellKeyed := by
  unfold Program.addFunction
  split
  · intro id g hg
    have hmem := (List.mem_filter.1 (Table.mem_entries_iff.2 hg)).1
    exact h id g (Table.mem_entries_iff.1 hmem)
  · intro id g hg
    have hg : (p.functions.set f.id f).get? id = some g := hg
    rw [Table.get?_set] at hg
    split at hg
    · next he =>
      cases hg
      exact he.symm
    · exact h id g hg

theorem wellKeyed_of_all {p : Program}
    (h : p.functions.entries.all (fun entry => entry.2.id == entry.1) = true) : p.WellKeyed := by
  intro id f hf
  exact beq_iff_eq.1 (List.all_eq_true.1 h _ (Table.mem_entries_iff.2 hf))

/-- **Every program that is read lists its functions under their ids.** -/
theorem wellKeyed_of_ofDocument {d : Document} {p : Program} (h : ofDocument d = .ok p) :
    p.WellKeyed := by
  have hfold : ∀ (l : List Document) (start : Program), start.WellKeyed →
      l.foldlM (fun p f => p.addRead (Function.ofDocument f)) start = .ok p → p.WellKeyed := by
    intro l
    induction l with
    | nil =>
      intro start hstart h
      cases h
      exact hstart
    | cons f rest ih =>
      intro start hstart h
      rw [List.foldlM_cons] at h
      obtain ⟨mid, hmid, h⟩ := Result.exists_of_bind_eq_ok h
      refine ih mid ?_ h
      unfold addRead at hmid
      split at hmid
      · cases hmid
        exact hstart.addFunction _
      · cases hmid
        exact hstart
      · cases hmid
  unfold ofDocument at h
  obtain ⟨globals, -, h⟩ := Result.exists_of_bind_eq_ok h
  obtain ⟨texts, -, h⟩ := Result.exists_of_bind_eq_ok h
  obtain ⟨functions, -, h⟩ := Result.exists_of_bind_eq_ok h
  obtain ⟨members, -, h⟩ := Result.exists_of_bind_eq_ok h
  refine hfold _ _ ?_ h
  intro id f hf
  cases hf

end Program

/-! ### The end of a resolution -/

theorem CallGraph.edge_of_calls {p : Program} (hkeyed : p.WellKeyed) {id callee : String}
    {f : Function} (hf : p.functions.get? id = some f) (hcalls : f.Calls p.functionIds callee) :
    (ofProgram p).callees.Edge id callee := by
  obtain ⟨node, n, hn, hkind, hcallee, hknown, hdynamic⟩ := hcalls
  refine edge_ofProgram_iff.2 ?_
  exact ⟨id, f, hf, hkeyed id f hf, node, n, hn, hkind, hcallee, hknown, hdynamic⟩

/-- In the end all layers are published. -/
theorem Resolver.published_of_resolve {p : Program} {rules : Registry} {limits : ResolveLimits}
    (hkeyed : p.WellKeyed) (hrounds : 2 ≤ limits.maxRounds) {allowance left : Allowance}
    {res : Resolution} (h : (ofProgram p rules limits ∅).resolve allowance = .ok (res, left)) :
    (ofProgram p rules limits ∅).Published (ofProgram p rules limits ∅).graph.layers
      res.summaries := by
  unfold resolve at h
  split at h
  · exact published_of_foldlM hkeyed (fun id hid => exists_function_of_mem_valid hid)
      (fun id f hf callee hcalls => CallGraph.edge_of_calls hkeyed hf hcalls) hrounds rfl []
      (ofProgram p rules limits ∅).graph.layers (CallGraph.layered_layers _ rfl)
      (published_initial rfl) h
  · cases h

/-- **The published summaries are a fixpoint.**  When a resolution that starts from nothing ends, every
function has a summary, and each one that is not unknown has the effect that summarising the function
anew, from all that is published, would find. -/
theorem Resolver.published_fixpoint (p : Program) (rules : Registry) (limits : ResolveLimits)
    (hkeyed : p.WellKeyed) (hrounds : 2 ≤ limits.maxRounds) (allowance left : Allowance)
    (res : Resolution) (h : (ofProgram p rules limits ∅).resolve allowance = .ok (res, left)) :
    (∀ id ∈ p.functionIds, ∃ s, res.summaries.get? id = some s) ∧
      ∀ id f s, p.functions.get? id = some f → res.summaries.get? id = some s →
        s.unknown = false → ∃ new,
          (ofProgram p rules limits ∅).summarize res.summaries.get? f = .ok new ∧
            new.toEffect.same s.toEffect = true := by
  let r := ofProgram p rules limits ∅
  have hlayered : CallGraph.Layered r.graph.callees r.graph.layers :=
    CallGraph.layered_layers r.graph rfl
  have hpublished : r.Published r.graph.layers res.summaries :=
    published_of_resolve hkeyed hrounds h
  have hfind : ∀ id ∈ p.functionIds, ∃ layer ∈ r.graph.layers, ∃ c ∈ layer, id ∈ c := by
    intro id hid
    exact hlayered.covered id
      (Graph.mem_vertices_iff.2 (Or.inl (CallGraph.mem_keys_ofEdges hid)))
  constructor
  · intro id hid
    by_cases hv : id ∈ r.valid
    · obtain ⟨layer, hlayer, c, hc, hidc⟩ := hfind id hid
      exact hpublished.summarised layer hlayer c hc id hidc hv
    · obtain ⟨s, hs, -⟩ := hpublished.failed id hid hv
      exact ⟨s, hs⟩
  · intro id f s hf hs hknown
    have hid : id ∈ p.functionIds := by
      rw [Program.functionIds, OrderedSet.mem_ofList, List.mem_append, Table.mem_keys_iff]
      exact Or.inl ⟨f, hf⟩
    by_cases hv : id ∈ r.valid
    · obtain ⟨layer, hlayer, c, hc, hidc⟩ := hfind id hid
      exact hpublished.consistent layer hlayer c hc id hidc hv f s hf hs hknown
    · obtain ⟨t, ht, hunknown⟩ := hpublished.failed id hid hv
      rw [hs, Option.some.injEq] at ht
      subst ht
      rw [hknown] at hunknown
      cases hunknown

/-- Calls itself, or returns its parameter. -/
def countdown : Program where
  functions := .ofList [("f", .bare "f" "test" ["x"]
    [("test", .bare .branch ["call", "end"]),
      ("call", { Node.bare .call ["last"] with
        callee := .text "f", args := [some "x"], target := .text "r" }),
      ("last", { Node.bare .ret [] with operands := ["r"] }),
      ("end", { Node.bare .ret [] with operands := ["x"] })])]
  globals := ∅
  malformed := ∅

theorem countdown_wellKeyed : countdown.WellKeyed := Program.wellKeyed_of_all (by decide +kernel)

/-- The recursive function settles, and its summary is what one more round would make it. -/
theorem published_fixpoint_countdown : ∃ res left,
    (Resolver.ofProgram countdown (.empty ∅) ⟨5, 3⟩ ∅).resolve .unlimited = .ok (res, left) ∧
      ∃ f s new, countdown.functions.get? "f" = some f ∧ res.summaries.get? "f" = some s ∧
        s.unknown = false ∧
        (Resolver.ofProgram countdown (.empty ∅) ⟨5, 3⟩ ∅).summarize res.summaries.get? f = .ok new ∧
        new.toEffect.same s.toEffect = true := by
  obtain ⟨⟨res, left⟩, hres, hknown⟩ := Result.exists_ok_of_any
    (r := (Resolver.ofProgram countdown (.empty ∅) ⟨5, 3⟩ ∅).resolve .unlimited)
    (p := fun result => (result.1.summaries.get? "f").any (fun s => !s.unknown))
    (by decide +kernel)
  obtain ⟨s, hs, hs'⟩ := (Option.any_eq_true _ _).1 hknown
  obtain ⟨f, hf⟩ : ∃ f, countdown.functions.get? "f" = some f :=
    Option.isSome_iff_exists.1 (by decide +kernel)
  have hunknown : s.unknown = false := by simpa using hs'
  obtain ⟨new, hnew, hsame⟩ := (Resolver.published_fixpoint countdown (.empty ∅) ⟨5, 3⟩
    countdown_wellKeyed (by decide) .unlimited left res hres).2 "f" f s hf hs hunknown
  exact ⟨res, left, hres, f, s, new, hf, hs, hunknown, hnew, hsame⟩

end TaintFlow
