import TaintFlow.Proofs.Flow.Faults
import TaintFlow.Proofs.Program.Identity
import TaintFlow.Proofs.Summary.Reuse

/-!
# What can stop a resolution

Every summary that a resolution publishes has an effect that can be applied, and a known one belongs to a
function that control does not leave by an edge into nothing (`Summary.Backed`), also when it was taken over
from earlier on.  So a resolution that is not cancelled stops only when the budget of a function, or of a component that does
not settle, cannot be shown (`Resolver.yields_resolve`).
-/

namespace TaintFlow

/-! ### Summaries that can be relied on -/

/-- The summary belongs to a function with this id and can be applied; if it is known, it has the hash of
some function among those given that control does not leave by an edge into nothing. -/
structure Summary.Backed (among : Function → Prop) (id : String) (s : Summary) : Prop where
  owner : s.function = id
  applicable : s.toEffect.Applicable
  closed : s.unknown = false → ∃ f, among f ∧ f.Closed ∧ s.contentHash = f.contentHash

namespace Summary

variable {f : Function} {a : Analysis} {among : Function → Prop}

theorem Backed.mono {among' : Function → Prop} {id : String} {s : Summary} (h : s.Backed among id)
    (himp : ∀ f, among f → among' f) : s.Backed among' id :=
  ⟨h.owner, h.applicable, fun hknown =>
    let ⟨f, hf, hclosed⟩ := h.closed hknown
    ⟨f, himp f hf, hclosed⟩⟩

theorem applicable_failed (function contentHash error : String) :
    (failed function contentHash error).toEffect.Applicable :=
  ⟨fun t ht => absurd ht (OrderedSet.not_mem_empty t), fun _ ho => absurd ho List.not_mem_nil⟩

theorem backed_failed (id contentHash error : String) :
    (failed id contentHash error).Backed among id :=
  ⟨rfl, applicable_failed id contentHash error, fun h => by cases h⟩

theorem isWritable_of_mem_outputs {globals : Names} (hnamed : f.Named)
    (hglobals : a.globals = f.globalsIn globals) {o : Output} (ho : o ∈ outputs f a) :
    Effect.IsWritable o.marker := by
  rcases marker_of_mem_outputs hglobals ho with he | ⟨x, hx⟩
  · rw [he]
    exact Effect.isWritable_returnSlot
  · generalize o.marker = m at hx
    cases hx with
    | param hp =>
      obtain ⟨hlt, -⟩ := List.getElem?_eq_some_iff.1 hp
      exact Effect.isWritable_paramMarker (Nat.lt_of_lt_of_le hlt hnamed.params)
    | receiver => exact Effect.isWritable_of_outputIndex (by decide +kernel)
    | global => exact Effect.isWritable_globalMarker _

theorem applicable_ofAnalysis {globals : Names} (hnamed : f.Named)
    (hglobals : a.globals = f.globalsIn globals) : (ofAnalysis f a).toEffect.Applicable := by
  refine ⟨fun t ht => ?_, fun output houtput => ?_⟩
  · obtain ⟨o, ho, l, -, m, -, -, rfl⟩ := mem_transfers_iff.1 ht
    exact ⟨m, o.marker, l.crossedUnknown, rfl, isWritable_of_mem_outputs hnamed hglobals ho⟩
  · obtain ⟨taint, htaint⟩ := OrderedMap.mem_keys_iff.1 houtput
    obtain ⟨o, ho, rfl, -⟩ := (get?_ofList_outputs f a
      (fun o => (a.exit.taintOf (some (.text o.slot))).concrete) _ output taint).1 htaint
    exact isWritable_of_mem_outputs hnamed hglobals ho

end Summary

namespace Program

def Named (p : Program) : Prop := ∀ id f, p.functions.get? id = some f → f.Named

theorem named_of_all {p : Program} (h : ∀ entry ∈ p.functions.entries, entry.2.Named) : p.Named :=
  fun id f hf => h (id, f) (Table.mem_entries_iff.2 hf)

def Owns (p : Program) (f : Function) : Prop := ∃ id, p.functions.get? id = some f

/-- What alone can stop the analyses of functions one by one: the budget of a function cannot be shown. -/
def Excuse (p : Program) (maxVisits : Int) (fault : Fault) : Prop :=
  fault = .invalid .unshowable ∧ ∃ f, p.Owns f ∧ f.Unshowable maxVisits

/-- A known summary belongs to a function of the program, under its id. -/
def Backs (p : Program) (table : NameMap Summary) : Prop :=
  ∀ id s, table.get? id = some s → s.Backed (fun f => p.functions.get? id = some f) id

variable {p : Program} {table : NameMap Summary}

theorem backs_empty (p : Program) : p.Backs ∅ := fun _ _ h => by cases h

theorem Backs.set (h : p.Backs table) {id : String} {s : Summary}
    (hs : s.Backed (fun f => p.functions.get? id = some f) id) : p.Backs (table.set id s) := by
  intro other t ht
  rw [OrderedMap.get?_set] at ht
  split at ht
  · next he =>
    cases ht
    rw [he]
    exact hs
  · exact h other t ht

end Program

namespace Resolver

variable {r : Resolver} {published provisional : NameMap Summary}

/-! ### One component -/

/-- What is known before something is summarised. -/
structure Prepared (r : Resolver) : Prop where
  keyed : r.program.WellKeyed
  named : r.program.Named
  valid : r.valid = validFunctions r.program

theorem Prepared.function (h : r.Prepared) {id : String} (hid : id ∈ r.valid) :
    ∃ f, r.program.functions.get? id = some f ∧ f.Closed := by
  rw [h.valid] at hid
  obtain ⟨f, hf, hdefect⟩ := mem_validFunctions_iff.1 hid
  have hfit : f.isValid r.program.functionIds = true := Option.isNone_iff_eq_none.2 hdefect
  exact ⟨f, hf, Function.closed_of_isValid hfit⟩

theorem yields_summarize (h : r.Prepared) {view : String → Option Summary} {id : String} {f : Function}
    (hf : r.program.functions.get? id = some f) (hclosed : f.Closed)
    (hview : ∀ callee s, view callee = some s → s.toEffect.Applicable) :
    Result.Yields (r.program.Excuse r.limits.maxVisits)
      (fun s => s.Backed (fun f => r.program.functions.get? id = some f) id) (r.summarize view f) := by
  have hid : f.id = id := h.keyed id f hf
  have hnamed : (r.frameOf view f).function.Named := h.named id f hf
  have happlies : (r.frameOf view f).Applies := by
    intro callee e he
    obtain ⟨s, hs, rfl⟩ := Option.map_eq_some_iff.1 he
    exact hview callee s hs
  have hyields := Frame.yields_analyze hnamed hclosed happlies r.limits.maxVisits
    (f.symbolicInputs r.program.globals)
  rw [summarize_eq]
  cases hanalyze : (r.frameOf view f).analyze (.whole r.limits.maxVisits)
      (f.symbolicInputs r.program.globals) with
  | ok a =>
    refine ⟨hid, ?_, fun _ => ⟨f, hf, hclosed, rfl⟩⟩
    exact Summary.applicable_ofAnalysis hnamed (Frame.globals_of_analyze hanalyze)
  | error fault =>
    rw [hanalyze] at hyields
    dsimp only
    split
    · rw [← hid]
      exact Summary.backed_failed _ _ _
    · next hlocal =>
      obtain ⟨hfault, hbudget⟩ := hyields.resolve_left hlocal
      exact ⟨hfault, f, ⟨id, hf⟩, hbudget⟩

theorem yields_refine (h : r.Prepared) (hpublished : r.program.Backs published)
    {round : NameMap Summary × Bool} (hround : r.program.Backs round.1) {id : String}
    (hid : id ∈ r.valid) : Result.Yields (r.program.Excuse r.limits.maxVisits)
      (fun next => r.program.Backs next.1) (r.refine published round id) := by
  obtain ⟨f, hf, hclosed⟩ := h.function hid
  unfold refine
  dsimp only
  rw [hf]
  dsimp only
  split
  · exact hround
  · refine (yields_summarize h hf hclosed fun callee s hs => ?_).bind fun new hnew => ?_
    · rcases Option.or_eq_some_iff.1 hs with hs | ⟨-, hs⟩
      · exact (hround callee s hs).applicable
      · exact (hpublished callee s hs).applicable
    · split
      · exact hround
      · exact hround.set hnew

theorem yields_rounds (h : r.Prepared) (hpublished : r.program.Backs published) {members : List String}
    (hmembers : ∀ id ∈ members, id ∈ r.valid) (n : Nat) (hprovisional : r.program.Backs provisional) :
    Result.Yields (r.program.Excuse r.limits.maxVisits) (fun next => r.program.Backs next.1)
      (r.rounds published members n provisional) := by
  induction n generalizing provisional with
  | zero => exact hprovisional
  | succ n ih =>
    rw [rounds]
    refine (Result.yields_foldlM (motive := fun next => r.program.Backs next.1) hprovisional
      fun round hround id hid => yields_refine h hpublished hround (hmembers id hid)).bind ?_
    rintro ⟨next, changed⟩ hnext
    dsimp only
    split
    · exact ih hnext
    · exact hnext

/-- A recursive component does not settle within its rounds, and their number has too many digits to be
shown. -/
structure Endless (r : Resolver) (component : Names) : Prop where
  recursive : r.graph.isRecursive component = true
  digits : Nat.pow 10 digitLimit ≤ r.limits.maxRounds.natAbs
  unsettled : ∃ published next,
    r.rounds published (r.membersOf component) r.limits.maxRounds.toNat ∅ = .ok (next, false)

/-- What can stop the summaries of some components. -/
def Excuse (r : Resolver) (components : List Names) (fault : Fault) : Prop :=
  r.program.Excuse r.limits.maxVisits fault ∨
    fault = .invalid .unshowable ∧ ∃ c ∈ components, r.Endless c

theorem Excuse.mono {components components' : List Names} {fault : Fault} (h : r.Excuse components fault)
    (hsubset : components ⊆ components') : r.Excuse components' fault :=
  h.imp_right fun ⟨hfault, c, hc, hendless⟩ => ⟨hfault, c, hsubset hc, hendless⟩

/-- A component that is given up is recursive and has not settled. -/
theorem endless_of_rounds {component : Names} {settled : Bool}
    (hrounds : r.rounds published (r.membersOf component) (r.budgetOf component).toNat ∅ =
      .ok (provisional, settled))
    (hdone : ¬ (settled || r.budgetOf component = 1) = true)
    (hdigits : Nat.pow 10 digitLimit ≤ r.limits.maxRounds.natAbs) : r.Endless component := by
  obtain ⟨rfl, hbudget⟩ : settled = false ∧ r.budgetOf component ≠ 1 := by simpa using hdone
  have hrecursive : r.graph.isRecursive component = true := by
    by_contra hnot
    exact hbudget (if_neg hnot)
  rw [show r.budgetOf component = r.limits.maxRounds from if_pos hrecursive] at hrounds
  exact ⟨hrecursive, hdigits, published, provisional, hrounds⟩

theorem yields_giveUp {component : Names} {kind : Fault → Prop} {post : List Summary → Prop}
    (hgiven : post (r.failedMembers component))
    (hfault : Nat.pow 10 digitLimit ≤ r.limits.maxRounds.natAbs → kind (.invalid .unshowable)) :
    Result.Yields kind post (r.giveUp component) := by
  cases hresult : r.giveUp component with
  | ok results =>
    obtain ⟨-, rfl⟩ := giveUp_eq_ok_iff.1 hresult
    exact hgiven
  | error fault =>
    obtain ⟨hdigits, rfl⟩ := giveUp_eq_error_iff.1 hresult
    exact hfault hdigits

theorem yields_summarizeComponent (h : r.Prepared) (hpublished : r.program.Backs published)
    (component : Names) : Result.Yields (r.Excuse [component])
      (fun results => ∀ s ∈ results,
        s.Backed (fun f => r.program.functions.get? s.function = some f) s.function)
      (r.summarizeComponent published component) := by
  rw [summarizeComponent_eq]
  refine ((yields_rounds h hpublished (fun id hid => (mem_membersOf_iff.1 hid).2) _
    r.program.backs_empty).mono fun _ => Or.inl).and_eq.bind ?_
  rintro ⟨provisional, settled⟩ ⟨hprovisional, hrounds⟩
  dsimp only
  split
  · intro s hs
    obtain ⟨id, hid⟩ := OrderedMap.mem_values_iff.1 hs
    have hbacked := hprovisional id s hid
    rw [hbacked.owner]
    exact hbacked
  · next hdone =>
    refine yields_giveUp (fun s hs => ?_) fun hdigits =>
      Or.inr ⟨rfl, component, List.mem_cons_self, endless_of_rounds hrounds hdone hdigits⟩
    obtain ⟨_, _, _, -, -, rfl⟩ := exists_of_mem_failedMembers hs
    exact Summary.backed_failed _ _ _

/-! ### All layers -/

/-- Earlier summaries that can be relied on: a function of the program that has the hash of one of the
earlier functions has its document too. -/
structure Trusted (r : Resolver) (among : Function → Prop) : Prop where
  backed : ∀ id s, r.previous.get? id = some s → s.Backed among id
  hashes : ∀ id f g, r.program.functions.get? id = some f → among g →
    f.contentHash = g.contentHash → f.toDocument.normal = g.toDocument.normal

variable {among : Function → Prop} {res : Resolution}

/-- A summary that can be reused belongs to a function of the program. -/
theorem Trusted.backed_of_canReuse (h : r.Trusted among) {c : Names} {id : String} {old : Summary}
    (hold : r.previous.get? id = some old) (hreuse : r.canReuse res c id = true) :
    old.Backed (fun f => r.program.functions.get? id = some f) id := by
  obtain ⟨f, s, hf, hs, -, hhash, -⟩ := canReuse_iff.1 hreuse
  obtain rfl : old = s := Option.some.inj (hold.symm.trans hs)
  have hbacked := h.backed id old hold
  refine ⟨hbacked.owner, hbacked.applicable, fun hknown => ?_⟩
  obtain ⟨g, hg, hclosed, hsame⟩ := hbacked.closed hknown
  have hdocument := h.hashes id f g hf hg (hhash.symm.trans hsame)
  exact ⟨f, hf, hclosed.of_core_eq (Function.core_eq_of_toDocument hdocument), hhash⟩

theorem Trusted.backs_base (h : r.Trusted among) (hres : r.program.Backs res.summaries)
    (layer : List Names) : r.program.Backs (r.base res layer).summaries := by
  refine List.foldlRecOn (motive := fun res : Resolution => r.program.Backs res.summaries) _ _ hres
    fun now hnow id hid => ?_
  obtain ⟨c, hc, hid⟩ := List.mem_flatMap.1 hid
  have hreuse := takesOver_iff.1 (List.mem_filter.1 hc).2 id hid
  unfold inherit
  cases hold : r.previous.get? id with
  | none => exact hnow
  | some old => exact hnow.set (h.backed_of_canReuse hold hreuse)

theorem backs_foldl_publish {results : List Summary} (hres : r.program.Backs res.summaries)
    (h : ∀ s ∈ results, s.Backed (fun f => r.program.functions.get? s.function = some f) s.function) :
    r.program.Backs (results.foldl Resolution.publish res).summaries :=
  List.foldlRecOn (motive := fun res : Resolution => r.program.Backs res.summaries) _ _ hres
    fun _ hnow s hs => hnow.set (h s hs)

theorem yields_resolveLayer (h : r.Prepared) (htrusted : r.Trusted among)
    (hres : r.program.Backs res.summaries) (layer : List Names) :
    Result.Yields (r.Excuse layer) (fun res => r.program.Backs res.summaries) (r.resolveLayer res layer) := by
  have hbase := htrusted.backs_base hres layer
  have hleft : ∀ c ∈ r.leftOf res layer, [c] ⊆ layer := by
    intro c hc d hd
    rw [List.mem_singleton.1 hd]
    exact List.mem_of_mem_filter (List.mem_of_mem_filter hc)
  rw [resolveLayer_eq]
  refine (Result.yields_mapM fun c hc => (yields_summarizeComponent h hbase c).mono
    fun _ hexcuse => hexcuse.mono (hleft c hc)).bind fun results hresults => ?_
  refine backs_foldl_publish hbase fun s hs => ?_
  obtain ⟨rs, hrs, hs⟩ := List.mem_flatten.1 hs
  exact hresults rs hrs s hs

theorem backs_initial (r : Resolver) : r.program.Backs r.initial.summaries :=
  initial_induction (motive := fun res => r.program.Backs res.summaries) r.program.backs_empty
    fun _ id _ _ hres _ => hres.set (Summary.backed_failed id _ _)

theorem isDefinedFor_of_named {p : Program} (h : p.Named) : CallGraph.isDefinedFor p = true := by
  refine List.all_eq_true.2 fun f hf => List.all_eq_true.2 ?_
  rintro ⟨id, n⟩ hn
  obtain ⟨name, hname⟩ := Table.mem_values_iff.1 hf
  exact ((h name f hname).nodes id n (Table.mem_entries_iff.1 (List.mem_filter.1 hn).1)).callee

/-- **A resolution stops only when a budget cannot be shown or when it is cancelled**, and all that it
publishes can be relied on. -/
theorem yields_resolve (h : r.Prepared) (htrusted : r.Trusted among) (allowance : Allowance) :
    Result.Yields (fun fault => r.Excuse r.graph.layers.flatten fault ∨ allowance ≠ .unlimited)
      (fun out => r.program.Backs out.1.summaries ∧ (allowance = .unlimited → out.2 = .unlimited))
      (r.resolve allowance) := by
  rw [resolve, if_pos (isDefinedFor_of_named h.named)]
  refine Result.yields_foldlM ⟨r.backs_initial, fun hgoes => hgoes⟩ ?_
  rintro ⟨res, left⟩ ⟨hres, hleft⟩ layer hlayer
  have hcheck : Result.Yields
      (fun fault => r.Excuse r.graph.layers.flatten fault ∨ allowance ≠ .unlimited)
      (fun left => allowance = .unlimited → left = .unlimited) (left.check .summaries) := by
    by_cases hgoes : allowance = .unlimited
    · rw [show left = .unlimited from hleft hgoes]
      exact fun _ => rfl
    · cases left.check .summaries with
      | ok left => exact fun he => absurd he hgoes
      | error fault => exact Or.inr hgoes
  refine hcheck.bind fun left hleft => ?_
  have hsubset : layer ⊆ r.graph.layers.flatten := fun c hc => List.mem_flatten.2 ⟨layer, hlayer, hc⟩
  exact ((yields_resolveLayer h htrusted hres layer).mono fun _ he => Or.inl (he.mono hsubset)).bind
    fun res hres => ⟨hres, hleft⟩

end Resolver

end TaintFlow
