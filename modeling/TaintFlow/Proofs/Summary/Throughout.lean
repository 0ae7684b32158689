import TaintFlow.Proofs.Summary.Reuse

/-!
# What all published summaries have

Summaries are made of other summaries, over rounds, components and layers.  A property of failed summaries and
of earlier ones that a new summary has, if those have it that it is made from, is one of all published
summaries (`Hereditary.resolve`).
-/

namespace TaintFlow

namespace Resolver

variable {r : Resolver} {P : Summary → Prop} {table published : NameMap Summary}

def Throughout (P : Summary → Prop) (table : NameMap Summary) : Prop :=
  ∀ id s, table.get? id = some s → P s

theorem Throughout.set (h : Throughout P table) {id : String} {s : Summary} (hs : P s) :
    Throughout P (table.set id s) := by
  intro other t ht
  rw [OrderedMap.get?_set] at ht
  split at ht
  · cases ht
    exact hs
  · exact h other t ht

/-- A property of failed summaries and of the earlier ones, which a new summary has if those have it that it
is made from. -/
structure Hereditary (r : Resolver) (P : Summary → Prop) : Prop where
  failed : ∀ id contentHash error, P (.failed id contentHash error)
  earlier : Throughout P r.previous
  made : ∀ view id f s, r.program.functions.get? id = some f → (∀ callee t, view callee = some t → P t) →
    r.summarize view f = .ok s → P s

namespace Hereditary

theorem rounds (h : r.Hereditary P) (hpublished : Throughout P published) {members : List String} {n : Nat}
    {settled : Bool} (hrounds : r.rounds published members n ∅ = .ok (table, settled)) :
    Throughout P table := by
  refine rounds_induction (motive := Throughout P) hrounds (fun id s hs => by cases hs) ?_
  intro provisional id f new _ hprovisional hf _ hnew
  refine hprovisional.set (h.made _ id f new hf (fun callee t ht => ?_) hnew)
  rcases Option.or_eq_some_iff.1 ht with ht | ⟨-, ht⟩
  · exact hprovisional callee t ht
  · exact hpublished callee t ht

theorem component (h : r.Hereditary P) (hpublished : Throughout P published) {c : Names}
    {results : List Summary} (hresults : r.summarizeComponent published c = .ok results) :
    ∀ s ∈ results, P s := by
  obtain ⟨next, settled, hrounds, ⟨-, rfl⟩ | ⟨-, -, rfl⟩⟩ := results_cases hresults
  · intro s hs
    obtain ⟨id, hid⟩ := OrderedMap.mem_values_iff.1 hs
    exact h.rounds hpublished hrounds id s hid
  · intro s hs
    obtain ⟨id, f, error, -, -, rfl⟩ := exists_of_mem_failedMembers hs
    exact h.failed _ _ _

variable {res res' : Resolution}

theorem base (h : r.Hereditary P) (hres : Throughout P res.summaries) (layer : List Names) :
    Throughout P (r.base res layer).summaries := by
  refine List.foldlRecOn (motive := fun res : Resolution => Throughout P res.summaries) _ _ hres
    fun now hnow id _ => ?_
  unfold inherit
  cases hold : r.previous.get? id with
  | none => exact hnow
  | some old => exact hnow.set (h.earlier id old hold)

theorem layer (h : r.Hereditary P) (hres : Throughout P res.summaries) {layer : List Names}
    (hlayer : r.resolveLayer res layer = .ok res') : Throughout P res'.summaries := by
  rw [resolveLayer_eq] at hlayer
  obtain ⟨results, hresults, hlayer⟩ := Result.exists_of_bind_eq_ok hlayer
  cases hlayer
  have hbase := h.base hres layer
  refine List.foldlRecOn (motive := fun res : Resolution => Throughout P res.summaries) _ _ hbase
    fun now hnow s hs => hnow.set ?_
  obtain ⟨rs, hrs, hs⟩ := List.mem_flatten.1 hs
  obtain ⟨c, -, hc⟩ := (Result.mem_iff_of_mapM hresults).1 hrs
  exact h.component hbase hc s hs

theorem initial (h : r.Hereditary P) : Throughout P r.initial.summaries :=
  initial_induction (motive := fun res => Throughout P res.summaries) (fun id s hs => by cases hs)
    fun _ _ _ _ hres _ => hres.set (h.failed _ _ _)

theorem layers (h : r.Hereditary P) {layers : List (List Names)} {allowance left : Allowance}
    (hres : Throughout P res.summaries)
    (hlayers : layers.foldlM (fun (res, allowance) layer => do
      let allowance ← allowance.check .summaries
      return (← r.resolveLayer res layer, allowance)) (res, allowance) = .ok (res', left)) :
    Throughout P res'.summaries := by
  induction layers generalizing res allowance with
  | nil =>
    cases hlayers
    exact hres
  | cons layer rest ih =>
    rw [List.foldlM_cons] at hlayers
    obtain ⟨⟨mid, allowance'⟩, hstep, hrest⟩ := Result.exists_of_bind_eq_ok hlayers
    obtain ⟨checked, -, hstep⟩ := Result.exists_of_bind_eq_ok hstep
    obtain ⟨next, hlayer, hstep⟩ := Result.exists_of_bind_eq_ok hstep
    cases hstep
    exact ih (h.layer hres hlayer) hrest

/-- **All published summaries have the property.** -/
theorem resolve (h : r.Hereditary P) {allowance left : Allowance}
    (hres : r.resolve allowance = .ok (res, left)) : Throughout P res.summaries := by
  unfold Resolver.resolve resolveLayers at hres
  split at hres
  · exact h.layers h.initial hres
  · cases hres

end Hereditary

end Resolver

end TaintFlow
