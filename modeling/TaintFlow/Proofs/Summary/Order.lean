import Mathlib.Algebra.GroupWithZero.Nat
import Mathlib.Data.Prod.Lex
import Mathlib.Logic.Relation
import Mathlib.Order.WellFounded
import TaintFlow.Proofs.Summary.Schedule

/-!
# Resolving in any order

A resolution whose layers are worked off in any order (`Resolver.ResolveStep`) ends, and it ends in what
`Resolver.resolve` comes to.  Only the next layer has to wait until the last one is done.
-/

namespace TaintFlow

/-- A resolution as far as it has come. -/
structure ResolveState where
  /-- The layers that are not open yet. -/
  todo : List (List Names)
  allowance : Allowance
  layer : LayerState

namespace Resolver

variable {r : Resolver} {res res' : Resolution} {allowance left : Allowance} {s s' : ResolveState}

/-- What may happen next: something in the layer that is open, or the next layer is opened, if the last one
is done and the run may go on. -/
inductive ResolveStep (r : Resolver) : ResolveState → ResolveState → Prop
  | within {s : ResolveState} {layer : LayerState} (h : r.LayerStep s.layer layer) :
      ResolveStep r s { s with layer := layer }
  | next {s : ResolveState} {layer : List Names} {rest : List (List Names)} {allowance : Allowance}
      (hdone : s.layer.Done) (htodo : s.todo = layer :: rest)
      (hcheck : s.allowance.check .summaries = .ok allowance) :
      ResolveStep r s ⟨rest, allowance, r.openLayer s.layer.res layer⟩

/-- Everything that cannot be analysed has failed, and no layer is open. -/
def startState (r : Resolver) (allowance : Allowance) : ResolveState :=
  ⟨r.graph.layers, allowance, ⟨r.initial, [], [], []⟩⟩

def endState (res : Resolution) (left : Allowance) : ResolveState := ⟨[], left, ⟨res, [], [], []⟩⟩

theorem eq_endState (htodo : s.todo = []) (hdone : s.layer.Done) :
    s = endState s.layer.res s.allowance := by
  obtain ⟨todo, allowance, res, waiting, jobs, ready⟩ := s
  obtain ⟨rfl, rfl, rfl⟩ := hdone
  cases htodo
  rfl

/-! ### It ends -/

/-- How much there is left to do: layers, components, steps of analyses, and summaries to be published. -/
def remaining (r : Resolver) (s : ResolveState) : Nat ×ₗ Nat ×ₗ Nat ×ₗ Nat :=
  toLex (s.todo.length, toLex (s.layer.waiting.length,
    toLex ((s.layer.jobs.map (fun j => r.stepsLeft j + 1)).sum, s.layer.ready.length)))

theorem remaining_lt (h : r.ResolveStep s s') : r.remaining s' < r.remaining s := by
  cases h with
  | next hdone htodo hcheck =>
    refine Prod.Lex.toLex_lt_toLex.2 (Or.inl ?_)
    simp [htodo]
  | within h =>
    refine Prod.Lex.toLex_lt_toLex.2 (Or.inr ⟨rfl, Prod.Lex.toLex_lt_toLex.2 ?_⟩)
    have hsum : ∀ {j}, j ∈ s.layer.jobs → (s.layer.jobs.map (fun j => r.stepsLeft j + 1)).sum =
        r.stepsLeft j + 1 + ((s.layer.jobs.erase j).map (fun j => r.stepsLeft j + 1)).sum :=
      fun hj => ((List.perm_cons_erase hj).map _).sum_eq
    cases h with
    | reuse hc htake =>
      have hlength := List.length_erase_of_mem hc
      have hpos := List.length_pos_of_mem hc
      exact Or.inl (by simp only; omega)
    | start hc htake =>
      have hlength := List.length_erase_of_mem hc
      have hpos := List.length_pos_of_mem hc
      exact Or.inl (by simp only; omega)
    | work hj hstep =>
      have hlt := stepsLeft_lt hstep
      refine Or.inr ⟨rfl, Prod.Lex.toLex_lt_toLex.2 (Or.inl ?_)⟩
      rw [hsum hj, List.map_cons, List.sum_cons]
      omega
    | collect hj hended =>
      refine Or.inr ⟨rfl, Prod.Lex.toLex_lt_toLex.2 (Or.inl ?_)⟩
      rw [hsum hj]
      dsimp only
      omega
    | publish ht =>
      have hlength := List.length_erase_of_mem ht
      have hpos := List.length_pos_of_mem ht
      refine Or.inr ⟨rfl, Prod.Lex.toLex_lt_toLex.2 (Or.inr ⟨rfl, ?_⟩)⟩
      simp only
      omega

theorem wellFounded_resolveStep (r : Resolver) : WellFounded (fun s' s => r.ResolveStep s s') :=
  Subrelation.wf (fun h => remaining_lt h) (InvImage.wf r.remaining wellFounded_lt)

/-! ### What holds on the way -/

def resolveAll (r : Resolver) (layers : List (List Names)) (res : Resolution) (allowance : Allowance) :
    Result (Resolution × Allowance) :=
  layers.foldlM (fun (res, allowance) layer => do
    let allowance ← allowance.check .summaries
    return (← r.resolveLayer res layer, allowance)) (res, allowance)

theorem resolveAll_append (layers more : List (List Names)) :
    r.resolveAll (layers ++ more) res allowance =
      r.resolveAll layers res allowance >>= fun (res, allowance) => r.resolveAll more res allowance := by
  unfold resolveAll
  rw [List.foldlM_append]

theorem resolveAll_cons (layer : List Names) (rest : List (List Names)) :
    r.resolveAll (layer :: rest) res allowance = (do
      let allowance ← allowance.check .summaries
      let res ← r.resolveLayer res layer
      r.resolveAll rest res allowance) := by
  unfold resolveAll
  rw [List.foldlM_cons]
  simp only [bind_assoc, pure_bind]

/-- A resolution that has come to a layer: those before it are done. -/
inductive Halfway (r : Resolver) (allowance : Allowance) : ResolveState → Prop
  | start : Halfway r allowance (r.startState allowance)
  | within {before todo : List (List Names)} {layer : List Names} {res : Resolution}
      {earlier now : Allowance} {inherited : List Names} {done : List (Names × List Summary)}
      {out : List Summary} {s : LayerState} (hsplit : r.graph.layers = before ++ layer :: todo)
      (hbefore : r.resolveAll before r.initial allowance = .ok (res, earlier))
      (hcheck : earlier.check .summaries = .ok now) (h : r.Underway layer res inherited done out s) :
      Halfway r allowance ⟨todo, now, s⟩

theorem Halfway.done (h : r.Halfway allowance s) (hseparate : ∀ layer ∈ r.graph.layers, r.Separate layer)
    (hdone : s.layer.Done) : ∃ before, r.graph.layers = before ++ s.todo ∧
      r.resolveAll before r.initial allowance = .ok (s.layer.res, s.allowance) := by
  cases h with
  | start => exact ⟨[], rfl, rfl⟩
  | @within before todo layer res earlier now _ _ _ s hsplit hbefore hcheck h =>
    have hlayer : layer ∈ r.graph.layers := by rw [hsplit]; simp
    refine ⟨before ++ [layer], by rw [hsplit]; simp, ?_⟩
    have hlast := h.resolveLayer_eq_ok (hseparate layer hlayer) hdone
    rw [resolveAll_append, hbefore]
    refine (resolveAll_cons layer []).trans ?_
    rw [hcheck]
    refine Eq.trans (b := r.resolveLayer res layer >>= fun res => r.resolveAll [] res now) rfl ?_
    rw [hlast]
    rfl

theorem Halfway.step (h : r.Halfway allowance s)
    (hseparate : ∀ layer ∈ r.graph.layers, r.Separate layer) (hstep : r.ResolveStep s s') :
    r.Halfway allowance s' := by
  cases hstep with
  | next hdone htodo hcheck =>
    obtain ⟨before, hsplit, hbefore⟩ := h.done hseparate hdone
    rw [htodo] at hsplit
    exact .within hsplit hbefore hcheck (underway_openLayer r _ _)
  | within hstep =>
    cases h with
    | start =>
      -- no layer is open
      cases hstep with
      | reuse hc _ => exact absurd hc List.not_mem_nil
      | start hc _ => exact absurd hc List.not_mem_nil
      | work hj _ => exact absurd hj List.not_mem_nil
      | collect hj _ => exact absurd hj List.not_mem_nil
      | publish ht => exact absurd ht List.not_mem_nil
    | @within before todo layer res earlier now _ _ _ s hsplit hbefore hcheck h =>
      have hlayer : layer ∈ r.graph.layers := by rw [hsplit]; simp
      obtain ⟨inherited, done, out, h⟩ := h.step (hseparate layer hlayer) hstep
      exact .within hsplit hbefore hcheck h

theorem Halfway.run (hseparate : ∀ layer ∈ r.graph.layers, r.Separate layer)
    (h : Relation.ReflTransGen r.ResolveStep (r.startState allowance) s) : r.Halfway allowance s := by
  induction h with
  | refl => exact .start
  | tail _ hstep ih => exact ih.step hseparate hstep

/-- A resolution that comes to something does not get stuck. -/
theorem Halfway.exists_step (h : r.Halfway allowance s)
    (hseparate : ∀ layer ∈ r.graph.layers, r.Separate layer)
    (hall : r.resolveAll r.graph.layers r.initial allowance = .ok (res, left))
    (hnot : s ≠ endState res left) : ∃ s', r.ResolveStep s s' := by
  by_cases hdone : s.layer.Done
  · obtain ⟨before, hsplit, hbefore⟩ := h.done hseparate hdone
    rw [hsplit, resolveAll_append, hbefore] at hall
    cases htodo : s.todo with
    | nil =>
      rw [htodo] at hall
      cases hall
      exact absurd (eq_endState htodo hdone) hnot
    | cons layer rest =>
      rw [htodo] at hall
      have hnext := (resolveAll_cons layer rest).symm.trans hall
      obtain ⟨now, hcheck, -⟩ := Result.exists_of_bind_eq_ok hnext
      exact ⟨_, .next hdone htodo hcheck⟩
  · cases h with
    | start => exact absurd ⟨rfl, rfl, rfl⟩ hdone
    | @within before todo layer res earlier now _ _ _ s hsplit hbefore hcheck h =>
      have hlayer : layer ∈ r.graph.layers := by rw [hsplit]; simp
      rw [hsplit, resolveAll_append, hbefore] at hall
      have hrest := (resolveAll_cons layer todo).symm.trans hall
      obtain ⟨_, _, hrest⟩ := Result.exists_of_bind_eq_ok hrest
      obtain ⟨res', hres', -⟩ := Result.exists_of_bind_eq_ok hrest
      obtain ⟨layer', hstep⟩ := h.exists_step (hseparate layer hlayer) hres' hdone
      exact ⟨_, .within hstep⟩

/-! ### Programs -/

/-- **Layers keep apart** what could disturb each other. -/
theorem separate_of_mem_layers {p : Program} {rules : Registry} {limits : ResolveLimits}
    {previous : NameMap Summary} (hkeyed : p.WellKeyed) {layer : List Names}
    (hlayer : layer ∈ (ofProgram p rules limits previous).graph.layers) :
    (ofProgram p rules limits previous).Separate layer := by
  have hlayered := CallGraph.layered_layers (ofProgram p rules limits previous).graph rfl
  refine ⟨hkeyed, fun _ => exists_function_of_mem_valid, hlayered.disjoint layer hlayer, ?_,
    fun id f hf callee hcalls => CallGraph.edge_of_calls hkeyed hf hcalls⟩
  intro c hc id hid callee hedge
  obtain ⟨before, after, hsplit⟩ := List.append_of_mem hlayer
  rcases hlayered.lower before layer after hsplit c hc id hid callee hedge with
    hin | ⟨lower, hlower, d, hd, hin⟩
  · exact Or.inl hin
  · exact Or.inr fun e he hmem =>
      hlayered.fresh before layer after hsplit e he callee hmem lower hlower d hd hin

theorem agreeOn_of_separate {layer : List Names} (h : r.Separate layer) {c : Names} (hc : c ∈ layer)
    {published published' : NameMap Summary}
    (hsame : ∀ id, (∀ d ∈ layer, d ≠ c → id ∉ d) → published'.get? id = published.get? id) :
    r.AgreeOn (r.membersOf c) published published' := by
  intro id hid f hf callee hcalls
  refine hsame callee fun d hd hne hmem => ?_
  rcases h.below c hc id (mem_membersOf_iff.1 hid).1 callee (h.calls id f hf callee hcalls) with
    hin | hout
  · exact hne (eq_of_mem_layer h.disjoint hc hd hin hmem).symm
  · exact hout d hd hmem

theorem Halfway.ends (hseparate : ∀ layer ∈ r.graph.layers, r.Separate layer)
    (hall : r.resolveAll r.graph.layers r.initial allowance = .ok (res, left))
    (h : r.Halfway allowance s) : Relation.ReflTransGen r.ResolveStep s (endState res left) := by
  induction s using (wellFounded_resolveStep r).induction with
  | _ s ih =>
    by_cases hend : s = endState res left
    · rw [hend]
    · obtain ⟨s', hstep⟩ := h.exists_step hseparate hall hend
      exact .head hstep (ih s' hstep (h.step hseparate hstep))

/-- **The order in which the components of a layer are worked off is irrelevant.**  No run goes on for
ever; a run can come to an end state exactly if that is what resolving layer by layer comes to, and then
every run gets there, whatever it has done so far.  The analysis of a component comes to the same from any
two tables that differ only in what the other components of its layer publish. -/
theorem resolve_in_any_order (p : Program) (rules : Registry) (limits : ResolveLimits)
    (previous : NameMap Summary) (hkeyed : p.WellKeyed) (allowance : Allowance) :
    let r := ofProgram p rules limits previous
    WellFounded (fun s' s => r.ResolveStep s s') ∧
    (∀ res left, r.resolve allowance = .ok (res, left) ↔ CallGraph.isDefinedFor p = true ∧
      Relation.ReflTransGen r.ResolveStep (r.startState allowance) (endState res left)) ∧
    (∀ res left s, r.resolve allowance = .ok (res, left) →
      Relation.ReflTransGen r.ResolveStep (r.startState allowance) s →
        Relation.ReflTransGen r.ResolveStep s (endState res left)) ∧
    ∀ layer ∈ r.graph.layers, ∀ c ∈ layer, ∀ published published' : NameMap Summary,
      (∀ id, (∀ d ∈ layer, d ≠ c → id ∉ d) → published'.get? id = published.get? id) →
        r.summarizeComponent published' c = r.summarizeComponent published c := by
  intro r
  have hseparate : ∀ layer ∈ r.graph.layers, r.Separate layer := fun layer hlayer =>
    separate_of_mem_layers hkeyed hlayer
  have hresolve : ∀ res left, r.resolve allowance = .ok (res, left) ↔ CallGraph.isDefinedFor p = true ∧
      r.resolveAll r.graph.layers r.initial allowance = .ok (res, left) := by
    intro res left
    have hunfold : r.resolve allowance = if CallGraph.isDefinedFor p then
        r.resolveAll r.graph.layers r.initial allowance else .error .wrongKind := rfl
    rw [hunfold]
    split
    · next hdefined => exact (and_iff_right hdefined).symm
    · next hdefined => exact iff_of_false (fun h => by cases h) fun h => hdefined h.1
  have hends : ∀ res left s, r.resolve allowance = .ok (res, left) →
      Relation.ReflTransGen r.ResolveStep (r.startState allowance) s →
        Relation.ReflTransGen r.ResolveStep s (endState res left) := fun res left s h hrun =>
    (Halfway.run hseparate hrun).ends hseparate ((hresolve res left).1 h).2
  refine ⟨wellFounded_resolveStep r,
    fun res left => ⟨fun h => ?_, fun ⟨hdefined, hrun⟩ => ?_⟩, hends, ?_⟩
  · exact ⟨((hresolve res left).1 h).1, hends res left _ h .refl⟩
  · obtain ⟨before, hsplit, hbefore⟩ := (Halfway.run hseparate hrun).done hseparate ⟨rfl, rfl, rfl⟩
    obtain rfl : r.graph.layers = before := hsplit.trans (List.append_nil before)
    exact (hresolve res left).2 ⟨hdefined, hbefore⟩
  · exact fun layer hlayer c hc published published' hsame =>
      summarizeComponent_congr (agreeOn_of_separate (hseparate layer hlayer) hc hsame)

end Resolver

def strangers : Program where
  functions := .ofList
    [("f", .bare "f" "end" ["x"] [("end", { Node.bare .ret [] with operands := ["x"] })]),
      ("g", .bare "g" "end" [] [("end", .bare .ret [])])]
  globals := ∅
  malformed := ∅

theorem strangers_wellKeyed : strangers.WellKeyed := Program.wellKeyed_of_all (by decide +kernel)

/-- The second function may be first: its analysis begins while the first one waits. -/
theorem resolve_in_any_order_strangers : ∃ res left s,
    (Resolver.ofProgram strangers (.empty ∅) ⟨5, 3⟩ ∅).resolve .unlimited = .ok (res, left) ∧
      s.layer.waiting = [.singleton "f"] ∧
      s.layer.jobs.map Job.component = [.singleton "g"] ∧
      Relation.ReflTransGen (Resolver.ofProgram strangers (.empty ∅) ⟨5, 3⟩ ∅).ResolveStep
        ((Resolver.ofProgram strangers (.empty ∅) ⟨5, 3⟩ ∅).startState .unlimited) s ∧
      Relation.ReflTransGen (Resolver.ofProgram strangers (.empty ∅) ⟨5, 3⟩ ∅).ResolveStep s
        (Resolver.endState res left) := by
  let r := Resolver.ofProgram strangers (.empty ∅) ⟨5, 3⟩ ∅
  obtain ⟨⟨res, left⟩, hres, -⟩ := Result.exists_ok_of_any (r := r.resolve .unlimited)
    (p := fun _ => true) (by decide +kernel)
  have hlayers : r.graph.layers = [[.singleton "f", .singleton "g"]] := by decide +kernel
  have hpending : r.pendingOf [.singleton "f", .singleton "g"] = [.singleton "f", .singleton "g"] := by
    decide +kernel
  have htake : r.takesOver r.initial (.singleton "g") = false := by decide +kernel
  have hopen : r.ResolveStep (r.startState .unlimited)
      ⟨[], .unlimited, r.openLayer r.initial [.singleton "f", .singleton "g"]⟩ :=
    .next ⟨rfl, rfl, rfl⟩ hlayers rfl
  have hmem : (.singleton "g" : Names) ∈
      (r.openLayer r.initial [.singleton "f", .singleton "g"]).waiting := by
    rw [Resolver.openLayer, hpending]
    exact List.mem_cons_of_mem _ List.mem_cons_self
  have hrun := (Relation.ReflTransGen.single hopen).tail (.within (.start hmem htake))
  refine ⟨res, left, _, hres, ?_, rfl, hrun,
    (Resolver.resolve_in_any_order strangers (.empty ∅) ⟨5, 3⟩ ∅ strangers_wellKeyed .unlimited).2.2.1
      res left _ hres hrun⟩
  change (r.pendingOf [.singleton "f", .singleton "g"]).erase (.singleton "g") = _
  rw [hpending]
  decide +kernel

end TaintFlow
