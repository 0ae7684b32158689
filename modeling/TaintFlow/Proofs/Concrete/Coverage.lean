import TaintFlow.Proofs.Concrete.Solution
import TaintFlow.Proofs.Summary.Incremental

/-!
# Which functions a pass gets to

Without declared entry points a pass starts at the usable functions that no other function calls, and at
every usable function if there are none (`mem_entries_iff_of_undeclared`).  From there it gets to just the
functions that are reached along calls that are followed (`accounts_iff_reached`): a call at a node to which
control comes, of a usable function, that no rule models as a source or a sanitizer.  A call to which
control never comes leads nowhere (`not_accounts_idle`).
-/

namespace TaintFlow

/-! ### The functions that nothing calls -/

theorem CallGraph.mem_roots_iff {p : Program} (hkeyed : p.WellKeyed) {id : String}
    (hid : id ∈ p.functionIds) : id ∈ (CallGraph.ofProgram p).roots ↔
      ∀ caller f, p.functions.get? caller = some f → f.Calls p.functionIds id → caller = id := by
  have hcaller : ∀ {caller callers}, (CallGraph.ofProgram p).callers.get? id = some callers →
      (caller ∈ callers ↔ ∃ f, p.functions.get? caller = some f ∧ f.Calls p.functionIds id) := by
    intro caller callers hcallers
    have hedge : (CallGraph.ofProgram p).callers.Edge id caller ↔ caller ∈ callers := by
      rw [Graph.edge_iff, hcallers]
      simp
    rw [← hedge, ← edge_iff_calls hkeyed]
    unfold ofProgram
    rw [edge_ofEdges_iff, edge_ofEdges_iff, List.mem_map]
    constructor
    · rintro ⟨⟨v, w⟩, hmem, he⟩
      cases he
      exact hmem
    · intro hmem
      exact ⟨(caller, id), hmem, rfl⟩
  obtain ⟨callers, hcallers⟩ : ∃ callers, (CallGraph.ofProgram p).callers.get? id = some callers :=
    OrderedMap.mem_keys_iff.1 (mem_keys_ofEdges hid)
  have hroot : id ∈ (CallGraph.ofProgram p).roots ↔ ∀ caller ∈ callers, caller = id := by
    unfold roots
    rw [List.mem_map]
    constructor
    · rintro ⟨⟨other, callers'⟩, hmem, rfl⟩
      obtain ⟨hentry, hempty⟩ := List.mem_filter.1 hmem
      obtain rfl : callers' = callers :=
        Option.some.inj ((OrderedMap.mem_entries_iff.1 hentry).symm.trans hcallers)
      intro caller hin
      by_contra hne
      exact OrderedSet.isEmpty_iff.1 hempty caller (OrderedSet.mem_erase.2 ⟨hin, hne⟩)
    · intro hall
      refine ⟨(id, callers), List.mem_filter.2 ⟨OrderedMap.mem_entries_iff.2 hcallers, ?_⟩, rfl⟩
      refine OrderedSet.isEmpty_iff.2 fun caller hin => ?_
      obtain ⟨hin, hne⟩ := OrderedSet.mem_erase.1 hin
      exact hne (hall caller hin)
  rw [hroot]
  refine forall_congr' fun caller => ?_
  rw [hcaller hcallers]
  exact ⟨fun h f hf hcalls => h ⟨f, hf, hcalls⟩, fun h ⟨f, hf, hcalls⟩ => h f hf hcalls⟩

namespace ConcretePass

variable {p : ConcretePass} {c c' : ConcreteState} {id callee : String} {f : Function}

/-- No other function of the program calls the function. -/
def IsRoot (p : ConcretePass) (id : String) : Prop :=
  ∀ caller f, p.program.functions.get? caller = some f → f.Calls p.program.functionIds id →
    caller = id

theorem isUsable_of_subset {l : List (String × Function)}
    (hl : l ⊆ p.program.functions.entries.filter (fun (id, _) => p.isUsable id))
    (h : id ∈ l.map Prod.fst) : p.isUsable id = true := by
  obtain ⟨entry, hentry, rfl⟩ := List.mem_map.1 h
  exact (List.mem_filter.1 (hl hentry)).2

theorem mem_map_usable_iff (hgrounded : p.Grounded) :
    id ∈ (p.program.functions.entries.filter (fun (id, _) => p.isUsable id)).map Prod.fst ↔
      p.isUsable id = true := by
  refine ⟨isUsable_of_subset (List.Subset.refl _), fun h => ?_⟩
  obtain ⟨f, hf⟩ := hgrounded id h
  exact List.mem_map.2 ⟨(id, f), List.mem_filter.2 ⟨Table.mem_entries_iff.2 hf, h⟩, rfl⟩

theorem mem_usableRoots_iff (hkeyed : p.program.WellKeyed) (hgraph : p.graph = .ofProgram p.program)
    (hgrounded : p.Grounded) (id : String) :
    id ∈ p.graph.roots.filter (fun id => id ∈
      (p.program.functions.entries.filter (fun (id, _) => p.isUsable id)).map Prod.fst) ↔
      p.IsRoot id ∧ p.isUsable id = true := by
  rw [List.mem_filter, decide_eq_true_iff, mem_map_usable_iff hgrounded, hgraph]
  refine and_congr_left fun h => CallGraph.mem_roots_iff hkeyed ?_
  exact Resolver.mem_functionIds_iff.2 (Or.inl (hgrounded id h))

/-- **Where a pass starts without declared entry points**: at the usable functions that nothing else calls,
or at every usable function. -/
theorem mem_entries_iff_of_undeclared (hkeyed : p.program.WellKeyed)
    (hgraph : p.graph = .ofProgram p.program) (hgrounded : p.Grounded)
    (hundeclared : ∀ id f, p.program.functions.get? id = some f → f.entryPoint = false) :
    id ∈ p.entries ↔ p.isUsable id = true ∧
      (p.IsRoot id ∨ ∀ other, p.isUsable other = true → ¬ p.IsRoot other) := by
  have hdeclared : ∀ {test : String × Function → Bool}, inOrder (((p.program.functions.entries.filter
      test).filter (fun entry => entry.2.entryPoint)).map Prod.fst) = [] := by
    intro test
    rw [List.eq_nil_iff_forall_not_mem]
    intro id hid
    obtain ⟨⟨other, f⟩, hmem, -⟩ := List.mem_map.1 (mem_inOrder.1 hid)
    obtain ⟨hmem, hentry⟩ := List.mem_filter.1 hmem
    have := hundeclared other f (Table.mem_entries_iff.1 (List.mem_filter.1 hmem).1)
    dsimp only at hentry
    rw [this] at hentry
    cases hentry
  have hroots := mem_usableRoots_iff hkeyed hgraph hgrounded
  unfold entries
  dsimp only
  rw [hdeclared]
  split
  · next h => cases h
  · split
    · next hsome =>
      rw [Bool.not_eq_true'] at hsome
      obtain ⟨root, hroot⟩ := List.isEmpty_eq_false_iff_exists_mem.1 hsome
      obtain ⟨hroot, hrootUsable⟩ := (hroots root).1 hroot
      rw [hroots]
      constructor
      · rintro ⟨h, hid⟩
        exact ⟨hid, Or.inl h⟩
      · rintro ⟨hid, h | hnone⟩
        · exact ⟨h, hid⟩
        · exact absurd hroot (hnone root hrootUsable)
    · next hnone =>
      rw [mem_inOrder, mem_map_usable_iff hgrounded]
      refine (and_iff_left_of_imp fun _ => Or.inr fun other hother hroot => ?_).symm
      have hmem := (hroots other).2 ⟨hroot, hother⟩
      refine hnone ?_
      rw [Bool.not_eq_true', List.isEmpty_eq_false_iff]
      exact List.ne_nil_of_mem hmem

/-! ### What is reached -/

/-- A call of the function, at a node to which control comes, is resolved to a function that is usable. -/
def Follows (p : ConcretePass) (f : Function) (callee : String) : Prop :=
  p.isUsable callee = true ∧
    ∃ node n, f.Reaches node ∧ f.node? node = some n ∧ (p.frame f).Calls n callee

/-- A function is reached from where the pass starts, along calls of functions that were analysed. -/
inductive Reached (p : ConcretePass) (analyses : Table Analysis) : String → Prop
  | entry {id : String} (h : id ∈ p.entries) : Reached p analyses id
  | call {id callee : String} {f : Function} {a : Analysis} (h : Reached p analyses id)
      (hf : p.program.functions.get? id = some f) (ha : analyses.get? id = some a)
      (hcall : p.Follows f callee) : Reached p analyses callee

theorem Reached.mono {analyses analyses' : Table Analysis} (h : p.Reached analyses id)
    (hanalysed : ∀ id a, analyses.get? id = some a → ∃ b, analyses'.get? id = some b) :
    p.Reached analyses' id := by
  induction h with
  | entry h => exact .entry h
  | call _ hf ha hcall ih =>
    obtain ⟨b, hb⟩ := hanalysed _ _ ha
    exact .call ih hf hb hcall

/-- The calls that an analysis has observed are those at the nodes to which control comes. -/
theorem follows_iff {visits : Amount} {inputs : KeyMap TaintSet} {a : Analysis}
    (h : (p.frame f).analyze visits inputs = .ok a) : p.Follows f callee ↔
      p.isUsable callee = true ∧ ∃ call ∈ a.seen.calls.values, call.callee = callee := by
  obtain ⟨hexact, hkeys⟩ := Frame.says_of_analyze h
  refine and_congr_right fun _ => ⟨?_, ?_⟩
  · rintro ⟨node, n, hreaches, hn, hcalls⟩
    obtain ⟨call, hcall, hcallee, -⟩ :=
      (hexact (.call node callee n.argSlots.length)).2 ⟨hreaches, n, hn, hcalls, rfl⟩
    exact ⟨call, Table.mem_values_iff.2 ⟨_, hcall⟩, hcallee⟩
  · rintro ⟨call, hcall, rfl⟩
    obtain ⟨key, hkey⟩ := Table.mem_values_iff.1 hcall
    obtain ⟨node, rfl⟩ := hkeys key call hkey
    obtain ⟨hreaches, n, hn, hcalls, -⟩ :=
      (hexact (.call node call.callee call.args.length)).1 ⟨call, hkey, rfl, rfl⟩
    exact ⟨node, n, hreaches, hn, hcalls⟩

end ConcretePass

def ConcreteState.Accounts (c : ConcreteState) (id : String) : Prop :=
  (∃ a, c.analyses.get? id = some a) ∨ ∃ message, c.failures.get? id = some message

namespace ConcretePass

variable {p : ConcretePass} {c c' : ConcreteState} {id callee : String} {f : Function}

/-- What is queued, analysed or failed was reached. -/
structure OnlyReached (p : ConcretePass) (c : ConcreteState) : Prop where
  queued : ∀ id ∈ c.queue, p.Reached c.analyses id
  accounted : ∀ id, c.Accounts id → p.Reached c.analyses id

theorem OnlyReached.record (h : p.OnlyReached c) (hkeyed : p.program.WellKeyed) (hid : id ∈ c.queue)
    {a : Analysis} {inputs : KeyMap TaintSet} {n : Nat} (hf : p.program.functions.get? id = some f)
    (ha : (p.frame f).analyze (.whole p.limits.maxVisits) inputs = .ok a)
    (hc : p.Recorded { c with queue := c.queue.erase id, runs := c.runs.set id n } id a c') :
    p.OnlyReached c' := by
  have hmono : ∀ {other}, p.Reached c.analyses other → p.Reached c'.analyses other := fun ho =>
    ho.mono fun other r hr => by
      by_cases he : other = id
      · exact ⟨a, hc.analyses_iff.2 (Or.inl ⟨he, rfl⟩)⟩
      · exact ⟨r, hc.analyses_iff.2 (Or.inr ⟨he, hr⟩)⟩
  have hanalysed : ∀ {other r}, c'.analyses.get? other = some r → p.Reached c'.analyses other := by
    intro other r hr
    rcases hc.analyses_iff.1 hr with ⟨rfl, -⟩ | ⟨-, hr⟩
    · exact hmono (h.queued _ hid)
    · exact hmono (h.accounted _ (Or.inl ⟨r, hr⟩))
  have hown : c'.analyses.get? id = some a := hc.analyses_iff.2 (Or.inl ⟨rfl, rfl⟩)
  refine ⟨fun other ho => ?_, fun other ho => ?_⟩
  · rcases hc.origin other ho with hin | ⟨r, hr⟩ | ⟨call, hcall, g, hg, rfl, husable⟩
    · exact hmono (h.queued _ (List.mem_of_mem_erase hin))
    · exact hanalysed hr
    · refine .call (hanalysed hown) hf hown ((follows_iff ha).2 ⟨husable, call, hcall, ?_⟩)
      exact (hkeyed _ _ hg).symm
  · rcases ho with ⟨r, hr⟩ | hfailed
    · exact hanalysed hr
    · rw [hc.failures] at hfailed
      exact hmono (h.accounted other (Or.inr hfailed))

/-- **A step gets to functions only that are reached.** -/
theorem OnlyReached.pops (h : p.OnlyReached c) (hkeyed : p.program.WellKeyed) (hpops : p.Pops c c') :
    p.OnlyReached c' := by
  obtain ⟨id, hid, hrun⟩ := hpops
  rcases runOne_cases hrun with ⟨-, rfl⟩ | ⟨f, hf, -, ⟨a, ha, rfl⟩ | ⟨message, rfl⟩⟩
  · exact ⟨fun other ho => h.queued other (List.mem_of_mem_erase ho), h.accounted⟩
  · exact h.record hkeyed hid hf ha (p.recorded_record _ id a)
  · refine ⟨fun other ho => h.queued other (List.mem_of_mem_erase ho), fun other ho => ?_⟩
    by_cases he : other = id
    · subst he
      exact h.queued other hid
    · refine h.accounted other (ho.imp_right fun ⟨text, htext⟩ => ⟨text, ?_⟩)
      rw [OrderedMap.get?_set, if_neg he] at htext
      exact htext

theorem onlyReached_of_pops (hkeyed : p.program.WellKeyed)
    (h : Relation.ReflTransGen p.Pops (.start p.entries) c) : p.OnlyReached c := by
  induction h with
  | refl =>
    refine ⟨fun id hid => .entry hid, fun id hid => ?_⟩
    rcases hid with ⟨_, h⟩ | ⟨_, h⟩ <;> cases h
  | tail _ hstep ih => exact ih.pops hkeyed hstep

/-- What was met in a pass that has ended and was not cut short was analysed, or its analysis failed. -/
theorem Invariant.accounts_of_met (h : p.Invariant c) (hqueue : c.queue = []) (hcut : id ∉ c.truncated)
    (hmet : c.Met id) : c.Accounts id := by
  rcases hmet with hin | hruns | hin
  · rw [hqueue] at hin
    exact absurd hin List.not_mem_nil
  · exact h.finished id hruns
  · exact absurd hin hcut

/-- **A pass that ends accounts for what is reached.** -/
theorem accounts_of_reached (hkeyed : p.program.WellKeyed) (hgrounded : p.Grounded)
    (hdone : p.Completes c) (htruncated : c.truncated = ∅) (h : p.Reached c.analyses id) :
    c.Accounts id := by
  have hinv := invariant_of_pops hkeyed hdone.1
  have hmet : ∀ {id}, c.Met id → c.Accounts id := fun {id} =>
    hinv.accounts_of_met hdone.2 (htruncated ▸ OrderedSet.not_mem_empty id)
  cases h with
  | entry h => exact hmet (hinv.entries id h)
  | @call caller _ f a _ hf ha hcall =>
    obtain ⟨g, inputs, hg, hanalyze⟩ := analysed_of_pops hdone.1 ha
    obtain rfl : f = g := Option.some.inj (hf.symm.trans hg)
    obtain ⟨husable, call, hmem, rfl⟩ := (follows_iff hanalyze).1 hcall
    obtain ⟨callee, hcallee⟩ := hgrounded _ husable
    have hid : callee.id = call.callee := hkeyed _ _ hcallee
    have hcalled := hinv.called caller a ha call hmem callee hcallee (hid.symm ▸ husable)
    rw [hid] at hcalled
    exact hmet hcalled

/-- **Whatever is cut short, a pass gets to functions only that are reached; a pass of which nothing is cut
short gets to all of them.** -/
theorem accounts_iff_reached (hkeyed : p.program.WellKeyed) (hgrounded : p.Grounded)
    (hdone : p.Completes c) (htruncated : c.truncated = ∅) :
    c.Accounts id ↔ p.Reached c.analyses id :=
  ⟨(onlyReached_of_pops hkeyed hdone.1).accounted id,
    accounts_of_reached hkeyed hgrounded hdone htruncated⟩

/-- **From the roots, nothing is skipped that can be reached.**  In a program without declared entry points
a pass starts at the usable functions that no other function calls, or at every usable function if there
are none; if it cuts nothing short, it accounts for every function that is reached from there along calls
that are followed. -/
theorem accounts_from_roots (program : Program) (rules : Registry) (limits : ResolveLimits)
    (previous : NameMap Summary) (hkeyed : program.WellKeyed)
    (hundeclared : ∀ id f, program.functions.get? id = some f → f.entryPoint = false)
    (allowance left : Allowance) (res : Resolution)
    (hres : (Resolver.ofProgram program rules limits previous).resolve allowance = .ok (res, left))
    (climits : ConcreteLimits) (allowance' : Allowance) (c : ConcreteState)
    (hrun : (ofResolution program rules res climits).run allowance' = .ok c)
    (htruncated : c.truncated = ∅) :
    (∀ id, id ∈ (ofResolution program rules res climits).entries ↔
        (ofResolution program rules res climits).isUsable id = true ∧
          ((ofResolution program rules res climits).IsRoot id ∨
            ∀ other, (ofResolution program rules res climits).isUsable other = true →
              ¬ (ofResolution program rules res climits).IsRoot other)) ∧
      ∀ id, (ofResolution program rules res climits).Reached c.analyses id → c.Accounts id := by
  have hgrounded : (ofResolution program rules res climits).Grounded :=
    grounded_ofResolution hkeyed hres climits
  refine ⟨fun id => ?_, fun id => ?_⟩
  · exact mem_entries_iff_of_undeclared hkeyed rfl hgrounded hundeclared
  · exact accounts_of_reached hkeyed hgrounded (completes_of_run hkeyed hrun) htruncated

end ConcretePass

/-! ### Two functions that call each other -/

def interpreterRules : Registry :=
  (Registry.empty ∅).addSink (.text "exec") ⟨[.rawCommandInterpreter], none⟩

def paired : Program where
  functions := .ofList [
    ("f", .bare "f" "call" [] [("call", { Node.bare .call [] with callee := .text "g" })]),
    ("g", .bare "g" "call" [] [("call", { Node.bare .call [] with callee := .text "f" })])]
  globals := ∅
  malformed := ∅

/-- The pass starts at both functions and accounts for both. -/
theorem accounts_paired : ∃ res left c,
    (Resolver.ofProgram paired interpreterRules ⟨10, 5⟩ ∅).resolve .unlimited = .ok (res, left) ∧
      (ConcretePass.ofResolution paired interpreterRules res ⟨10, 5⟩).run .unlimited = .ok c ∧
      c.Accounts "f" ∧ c.Accounts "g" := by
  obtain ⟨⟨res, left⟩, hres, hruns⟩ := Result.exists_ok_of_any
    (r := (Resolver.ofProgram paired interpreterRules ⟨10, 5⟩ ∅).resolve .unlimited)
    (p := fun result =>
      ((ConcretePass.ofResolution paired interpreterRules result.1 ⟨10, 5⟩).run .unlimited).toOption.any
        (fun (c : ConcreteState) => decide (c.truncated = ∅ ∧
          (ConcretePass.ofResolution paired interpreterRules result.1 ⟨10, 5⟩).entries = ["f", "g"])))
    (by decide +kernel)
  obtain ⟨c, hrun, hc⟩ := Result.exists_ok_of_any hruns
  obtain ⟨htruncated, hentries⟩ := of_decide_eq_true hc
  have hundeclared : ∀ entry ∈ paired.functions.entries, entry.2.entryPoint = false := by
    decide +kernel
  obtain ⟨-, haccounts⟩ := ConcretePass.accounts_from_roots paired interpreterRules ⟨10, 5⟩ ∅
    (Program.wellKeyed_of_all (by decide +kernel))
    (fun id f hf => hundeclared (id, f) (Table.mem_entries_iff.2 hf)) .unlimited left res hres ⟨10, 5⟩
    .unlimited c hrun htruncated
  refine ⟨res, left, c, hres, hrun, haccounts "f" (.entry ?_), haccounts "g" (.entry ?_)⟩ <;>
    rw [hentries]
  · exact List.mem_cons_self
  · exact List.mem_cons_of_mem "f" (List.mem_singleton_self "g")

/-! ### A call to which control never comes -/

/-- A function with a call to which control never comes.  Nothing else calls the other function, which
passes its parameter, that comes from outside, to a command interpreter. -/
def idle : Program where
  functions := .ofList [
    ("main", .bare "main" "end" [] [
      ("end", .bare .ret []),
      ("call", { Node.bare .call ["end"] with callee := .text "f" })]),
    ("f", { Function.bare "f" "use" [] [
        ("use", { Node.bare .call [] with api := .text "exec", args := [some "x"] })] with
      params := [⟨"x", some .networkParameter, false, none⟩] })]
  globals := ∅
  malformed := ∅

/-- The called function is no root and is not reached from one, so it is skipped, usable as it is. -/
theorem not_accounts_idle : ∃ res left c,
    (∀ id f, idle.functions.get? id = some f → f.entryPoint = false) ∧
      (Resolver.ofProgram idle interpreterRules ⟨10, 5⟩ ∅).resolve .unlimited = .ok (res, left) ∧
      (ConcretePass.ofResolution idle interpreterRules res ⟨10, 5⟩).run .unlimited = .ok c ∧
      c.truncated = ∅ ∧
      (ConcretePass.ofResolution idle interpreterRules res ⟨10, 5⟩).isUsable "f" = true ∧
      ¬ c.Accounts "f" := by
  obtain ⟨⟨res, left⟩, hres, hruns⟩ := Result.exists_ok_of_any
    (r := (Resolver.ofProgram idle interpreterRules ⟨10, 5⟩ ∅).resolve .unlimited)
    (p := fun result =>
      ((ConcretePass.ofResolution idle interpreterRules result.1 ⟨10, 5⟩).run .unlimited).toOption.any
        (fun (c : ConcreteState) => decide (c.truncated = ∅ ∧
          (ConcretePass.ofResolution idle interpreterRules result.1 ⟨10, 5⟩).isUsable "f" = true ∧
            c.analyses.get? "f" = none ∧ c.failures.get? "f" = none)))
    (by decide +kernel)
  obtain ⟨c, hrun, hc⟩ := Result.exists_ok_of_any hruns
  obtain ⟨htruncated, husable, hanalyses, hfailures⟩ := of_decide_eq_true hc
  have hundeclared : ∀ entry ∈ idle.functions.entries, entry.2.entryPoint = false := by
    decide +kernel
  refine ⟨res, left, c, fun id f hf => hundeclared (id, f) (Table.mem_entries_iff.2 hf), hres, hrun,
    htruncated, husable, ?_⟩
  rintro (⟨a, ha⟩ | ⟨message, hmessage⟩)
  · rw [hanalyses] at ha
    cases ha
  · rw [hfailures] at hmessage
    cases hmessage

end TaintFlow
