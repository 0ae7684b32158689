import TaintFlow.Proofs.Flow.Edges
import TaintFlow.Proofs.Flow.Spread

/-!
# Where the taint at a sink comes from

Labels are moved by transfers, and edges are recorded beside them, from the slots that a node is seen to
read.  In a function that calls no other one the two agree at every node but one kind: a sink that nobody
models hands on all that it is given, and records only what it checks (`Frame.Slips`).  So a label at a
sink is led there from its origin by recorded edges, and by such calls where no edge was recorded
(`Frame.chain_of_sink`).

The induction is on the path of control that brings the label: what carries it has a definition, and an
origin leads to that definition.
-/

namespace TaintFlow

namespace Analysis

def Links (a : Analysis) (d d' : String) : Prop := ∃ e ∈ a.seen.edges, e.src = d ∧ e.dst = d'

def Enters (a : Analysis) (origin : Origin) (key : String) : Prop :=
  ∃ origins, a.seen.origins.get? key = some origins ∧ origin ∈ origins

end Analysis

theorem mem_useEdges {kind : EdgeKind} {key d : String} {slots : List (Option Slot)} {s : State}
    {y : Slot} (hy : some y ∈ slots) (hd : s.DefinedBy y d) :
    ⟨d, key, kind, some y, none⟩ ∈ useEdges kind key slots s :=
  List.mem_flatMap.2 ⟨some y, hy, List.mem_map.2 ⟨d, hd, rfl⟩⟩

theorem Node.mem_checkedArgs {n : Node} {rule : SinkRule} {index : Nat} {y : Slot}
    (hchecks : rule.checks index = true) (hy : n.argSlots[index]? = some (some y)) :
    some y ∈ n.checkedArgs rule := by
  rw [argSlots, List.getElem?_map, Option.map_eq_some_iff] at hy
  obtain ⟨slot, hslot, hy⟩ := hy
  exact List.mem_map.2 ⟨(index, slot), List.mem_filter.2 ⟨mem_zip_range_iff.2 hslot, hchecks⟩, hy⟩

/-- Where the wiring puts a label it defines the slot and shows where it takes the label from, unless the
slot had the label and keeps what it had; what it makes it makes under an origin. -/
structure Wiring.Accounted (w : Wiring) (shows : Slot → Prop) (origin : Option Origin) : Prop where
  moved : ∀ y x, w.moves y x → (y = x ∧ w.keeps x) ∨ w.writes x ∧ shows y
  made : ∀ x i o, w.makes x i → o ∈ i.origins → origin = some o

namespace Wiring

variable {shows : Slot → Prop} {origin : Option Origin} {reads : List Slot} {made : Identity → Prop}

theorem accounted_idle : idle.Accounted shows origin :=
  ⟨fun _ _ h => Or.inl ⟨h, trivial⟩, fun _ _ _ h => h.elim⟩

theorem accounted_overwrite (target : Slot) (hreads : ∀ y ∈ reads, shows y)
    (hmade : ∀ i o, made i → o ∈ i.origins → origin = some o) :
    (overwrite target reads made).Accounted shows origin where
  moved y x := by
    rintro (⟨hne, rfl⟩ | ⟨rfl, hy⟩)
    · exact Or.inl ⟨rfl, hne⟩
    · exact Or.inr ⟨rfl, hreads y hy⟩
  made _ i o h ho := hmade i o h.2 ho

theorem accounted_extend (target : Slot) (hreads : ∀ y ∈ reads, shows y) :
    (extend target reads).Accounted shows origin where
  moved y x := by
    rintro (rfl | ⟨rfl, hy⟩)
    · exact Or.inl ⟨rfl, trivial⟩
    · exact Or.inr ⟨rfl, hreads y hy⟩
  made _ _ _ h := h.elim

/-- A call has to show what it reads only if it keeps its result. -/
theorem accounted_result (target : Option Slot)
    (hreads : target.isSome = true → ∀ y ∈ reads, shows y)
    (hmade : ∀ i o, made i → o ∈ i.origins → origin = some o) :
    (result target reads made).Accounted shows origin := by
  cases target with
  | none => exact accounted_idle
  | some slot => exact accounted_overwrite slot (hreads rfl) hmade

end Wiring

namespace Frame

variable {frame : Frame} {inputs : KeyMap TaintSet} {p p' : Progress} {id : String} {n : Node}
  {x y : Slot} {i : Identity} {o : Origin}

/-! ### One node -/

/-- The call puts what it is given in a slot into its result and records no edge for it: it is a sink that
nobody models, which does not check the slot. -/
structure Slips (frame : Frame) (n : Node) (y : Slot) : Prop where
  call : n.kind = .call
  role : frame.role n = .unresolved
  result : n.targetSlot?.isSome = true
  passed : y ∈ n.passedSlots
  unchecked : ∃ rule, frame.rules.sink? n.api = some rule ∧ some y ∉ n.checkedArgs rule

def Shows (frame : Frame) (id : String) (n : Node) (y : Slot) : Prop :=
  ∀ s : State, ∀ d, s.DefinedBy y d →
    ∃ e ∈ frame.edgesAt id n s, e.src = d ∧ e.dst = frame.function.key id

/-- The origin under which a node makes labels. -/
def originAt (frame : Frame) (n : Node) : Option Origin :=
  if n.kind = .call then
    match frame.role n with
    | .source rule => some rule.origin
    | .degraded => some .unknownExternal
    | _ => none
  else none

theorem shows_operand (hkind : n.kind = .assign ∨ n.kind = .ret) (hy : y ∈ n.operandSlots) :
    frame.Shows id n y := by
  intro s d hd
  refine ⟨⟨d, frame.function.key id, .plain, some y, none⟩, ?_, rfl, rfl⟩
  have hread : ⟨d, frame.function.key id, .plain, some y, none⟩ ∈
      n.operandEdges (frame.function.key id) s := mem_useEdges (List.mem_map.2 ⟨y, hy, rfl⟩) hd
  unfold edgesAt
  rcases hkind with hkind | hkind <;> rw [hkind] <;> exact hread

theorem shows_of_checked {rule : SinkRule} (hkind : n.kind = .call)
    (hrule : frame.rules.sink? n.api = some rule) (hy : some y ∈ n.checkedArgs rule) :
    frame.Shows id n y := by
  intro s d hd
  refine ⟨⟨d, frame.function.key id, .plain, some y, none⟩, ?_, rfl, rfl⟩
  unfold edgesAt sinkEdges
  rw [hkind, hrule]
  exact List.mem_append_left _ (mem_useEdges hy hd)

theorem shows_of_read {kind : EdgeKind} (hkind : n.kind = .call) (hy : y ∈ n.passedSlots)
    (hrole : ∀ key s, frame.roleEdges key n s = n.readEdges kind key s) : frame.Shows id n y := by
  intro s d hd
  refine ⟨⟨d, frame.function.key id, kind, some y, none⟩, ?_, rfl, rfl⟩
  have hreads : n.reads = n.passedSlots := if_pos hkind
  unfold edgesAt
  rw [hkind]
  refine List.mem_append_right _ ?_
  rw [hrole, Node.readEdges, hreads]
  exact mem_useEdges (List.mem_map.2 ⟨y, hy, rfl⟩) hd

/-- **What a node moves it shows**, unless it lets it slip, if it calls no function. -/
theorem accounted_wiring (frame : Frame) (id : String) (hlocal : ∀ callee, ¬ frame.Calls n callee) :
    (frame.wiring n).Accounted (fun y => frame.Shows id n y ∨ frame.Slips n y) (frame.originAt n) := by
  unfold wiring originAt
  cases hkind : n.kind with
  | assign =>
    cases n.target.key? with
    | none => exact Wiring.accounted_idle
    | some target =>
      exact Wiring.accounted_overwrite target
        (fun y hy => Or.inl (shows_operand (Or.inl hkind) hy)) fun _ _ h => h.elim
  | ret => exact Wiring.accounted_extend _ fun y hy => Or.inl (shows_operand (Or.inr hkind) hy)
  | branch | nop => exact Wiring.accounted_idle
  | call =>
    dsimp only
    unfold callWiring
    rw [if_pos rfl]
    cases hrole : frame.role n with
    | source rule =>
      refine Wiring.accounted_result _ (fun _ y hy => absurd hy List.not_mem_nil) ?_
      rintro _ o rfl ho
      rw [OrderedSet.mem_singleton.1 ho]
    | sanitizer =>
      refine Wiring.accounted_result _ (fun _ y hy => Or.inl ?_) fun _ _ h => h.elim
      exact shows_of_read hkind hy fun key s => by rw [roleEdges, hrole]
    | resolved callee effect => exact absurd ⟨hkind, effect, hrole⟩ (hlocal callee)
    | degraded =>
      refine Wiring.accounted_result _ (fun _ y hy => Or.inl ?_) ?_
      · exact shows_of_read hkind hy fun key s => by rw [roleEdges, hrole]
      · rintro _ o rfl ho
        rw [OrderedSet.mem_singleton.1 ho]
    | unresolved =>
      refine Wiring.accounted_result _ (fun hkept y hy => ?_) fun _ _ h => h.elim
      cases hsink : frame.rules.sink? n.api with
      | none =>
        exact Or.inl (shows_of_read hkind hy fun key s => by rw [roleEdges, hrole, hsink]; rfl)
      | some rule =>
        by_cases hchecked : some y ∈ n.checkedArgs rule
        · exact Or.inl (shows_of_checked hkind hsink hchecked)
        · exact Or.inr ⟨hkind, hrole, hkept, hy, rule, hsink, hchecked⟩

/-! ### Recorded origins -/

theorem get?_origins_observe (frame : Frame) (id : String) (n : Node) (s : State) (o : Observations)
    (key : String) : (frame.observe id n s o).origins.get? key =
      if key = frame.function.key id then ((frame.originAt n).map .singleton).or (o.origins.get? key)
      else o.origins.get? key := by
  have hsink : ∀ o : Observations,
      (frame.observeSink id (frame.function.key id) n s o).origins = o.origins := by
    intro o
    unfold observeSink
    cases frame.rules.sink? n.api <;> rfl
  unfold observe originAt
  cases n.kind with
  | assign =>
    unfold observeTainted
    dsimp only
    split <;> simp [Observations.addEdges]
  | call =>
    unfold observeCall
    dsimp only
    cases frame.role n with
    | source rule =>
      simp only [Observations.addOrigin, hsink, OrderedMap.get?_set]
      split <;> rfl
    | degraded =>
      simp only [Observations.addOrigin, Observations.addEdges, hsink, OrderedMap.get?_set]
      split <;> rfl
    | unresolved =>
      dsimp only
      split <;> simp [Observations.addEdges, hsink]
    | _ => simp [Observations.addEdges, hsink]
  | ret => simp [Observations.addEdges]
  | branch => simp
  | nop => simp

/-- Every node that has been visited has recorded its origin. -/
def Rooted (frame : Frame) (p : Progress) : Prop :=
  ∀ id n out o, p.after.get? id = some out → frame.function.node? id = some n →
    frame.originAt n = some o → p.seen.origins.get? (frame.function.key id) = some (.singleton o)

theorem Rooted.visit (h : frame.Rooted p) (hinv : frame.Invariant inputs p)
    (hvisit : frame.Visits p p') : frame.Rooted p' := by
  obtain ⟨id, n, s, v⟩ := hinv.exists_visit hvisit
  intro other m out o hafter hm horigin
  rw [v.seen_eq, get?_origins_observe]
  by_cases hsame : other = id
  · subst hsame
    obtain rfl := Option.some.inj (hm.symm.trans v.node)
    rw [if_pos rfl, horigin]
    rfl
  · rw [if_neg fun hkey => hsame (key_injective _ hkey)]
    rw [v.get?_after, if_neg hsame] at hafter
    exact h other m out o hafter hm horigin

theorem rooted_of_visits (h : Relation.ReflTransGen frame.Visits (frame.start inputs) p) :
    frame.Rooted p := by
  induction h with
  | refl =>
    intro id n out o hafter
    cases hafter
  | tail hprior hvisit ih => exact ih.visit (invariant_of_visits hprior) hvisit

variable {visits : Amount} {a : Analysis}

/-- A node that control reaches has recorded its origin in the end. -/
theorem enters_of_originAt (h : frame.analyze visits inputs = .ok a) (hreach : frame.function.Reaches id)
    (hnode : frame.function.node? id = some n) (horigin : frame.originAt n = some o) :
    a.Enters o (frame.function.key id) := by
  obtain ⟨p, hp, rfl⟩ := analyze_eq_ok h
  have hinv := invariant_of_visits hp.1
  obtain ⟨m, s, -, hsettled⟩ := hinv.settled_of_reaches hp.2 hreach
  exact ⟨_, rooted_of_visits hp.1 id n _ o hsettled.after hnode horigin, OrderedSet.mem_singleton.2 rfl⟩

/-! ### Chains -/

/-- A definition reaches a call that hands it on without an edge. -/
def Bypasses (frame : Frame) (a : Analysis) (d d' : String) : Prop :=
  ∃ id n y, frame.function.node? id = some n ∧ d' = frame.function.key id ∧ frame.Slips n y ∧
    frame.Says a.exit a.seen (.defined id y d)

/-- An edge leads from one key to another, or a call that should have recorded one. -/
def Leads (frame : Frame) (a : Analysis) (d d' : String) : Prop := a.Links d d' ∨ frame.Bypasses a d d'

theorem links_of_shows (h : frame.analyze visits inputs = .ok a) {ids : List String} {d : String}
    (hpath : frame.function.Path ids id) (hnode : frame.function.node? id = some n)
    (hshows : frame.Shows id n y) (hd : (frame.arriving inputs ids).DefinedBy y d) :
    a.Links d (frame.function.key id) := by
  obtain ⟨p, hp, rfl⟩ := analyze_eq_ok h
  obtain ⟨e, he, hsrc, hdst⟩ := hshows _ d hd
  exact ⟨e, mem_edges_finish.2 (Or.inl ((mem_edges_iff hp).2 ⟨ids, id, n, hpath, hnode, he⟩)), hsrc, hdst⟩

/-- **What carries a label has a definition that the origin of the label leads to.** -/
theorem exists_leads_of_carries_arriving (h : frame.analyze visits inputs = .ok a)
    (hlocal : ∀ id n callee, frame.function.node? id = some n → ¬ frame.Calls n callee)
    (hinputs : ∀ x i, (inputs.getD x ∅).has i = true → o ∉ i.origins) (ho : o ∈ i.origins)
    {ids : List String} (hpath : frame.function.Path ids id)
    (hi : (frame.arriving inputs ids).Carries x i) :
    ∃ d, (frame.arriving inputs ids).DefinedBy x d ∧
      ∃ m, a.Enters o m ∧ Relation.ReflTransGen (frame.Leads a) m d := by
  induction hpath generalizing x with
  | entry => exact absurd ho (hinputs x i (carries_entryState_iff.1 hi).2)
  | @step ids id succ n hprior hnode hsucc ih =>
    have hw := frame.describes_transfer id n
    have haccounted := frame.accounted_wiring id fun callee => hlocal id n callee hnode
    rw [arriving_concat hnode] at hi ⊢
    rcases (hw.carries_iff _ x i).1 hi with hmakes | ⟨y, hmoves, hc⟩
    · have hwrites := (frame.traced_wiring n).made x i hmakes
      exact ⟨_, (hw.definedBy_iff _ x _).2 (Or.inr ⟨rfl, Or.inl hwrites⟩), _,
        enters_of_originAt h ⟨ids, hprior⟩ hnode (haccounted.made x i o hmakes ho), .refl⟩
    · obtain ⟨d, hd, m, hm, hchain⟩ := ih hc
      rcases haccounted.moved y x hmoves with ⟨rfl, hkeeps⟩ | ⟨hwrites, hread⟩
      · exact ⟨d, (hw.definedBy_iff _ y d).2 (Or.inl ⟨hkeeps, hd⟩), m, hm, hchain⟩
      · refine ⟨_, (hw.definedBy_iff _ x _).2 (Or.inr ⟨rfl, Or.inl hwrites⟩), m, hm, hchain.tail ?_⟩
        rcases hread with hshows | hslips
        · exact Or.inl (links_of_shows h hprior hnode hshows hd)
        · exact Or.inr ⟨id, n, y, hnode, rfl, hslips, ((says_of_analyze h).1 _).2 ⟨ids, hprior, hd⟩⟩

/-- **Taint at a sink is led there from its origin.**  In a function that calls no other one, a label in a
checked argument of a sink, under an origin that no input has, comes from a node that recorded the origin,
along recorded edges and through sinks that nobody models, which hand on what they do not check.  Where no
such sink keeps its result, edges lead all the way. -/
theorem chain_of_sink (h : frame.analyze visits inputs = .ok a)
    (hlocal : ∀ id n callee, frame.function.node? id = some n → ¬ frame.Calls n callee)
    (hinputs : ∀ x i, (inputs.getD x ∅).has i = true → o ∉ i.origins)
    (hnode : frame.function.node? id = some n) {rule : SinkRule}
    (hrule : frame.rules.sink? n.api = some rule) {index : Nat} (hchecks : rule.checks index = true)
    {seen : SinkObservation} (hseen : a.seen.sinks.get? (frame.function.key id) = some seen)
    {taint : TaintSet} (htaint : seen.args[index]? = some taint) (hi : taint.has i = true)
    (ho : o ∈ i.origins) :
    (∃ m, a.Enters o m ∧ Relation.TransGen (frame.Leads a) m (frame.function.key id)) ∧
      ((∀ id n y, frame.function.node? id = some n → ¬ frame.Slips n y) →
        ∃ m, a.Enters o m ∧ Relation.TransGen a.Links m (frame.function.key id)) := by
  obtain ⟨m, x, hm, ⟨hkind, -⟩, harg, ids, hpath, hc⟩ :=
    ((says_of_analyze h).1 (.sinkArg id index i)).1 ⟨seen, hseen, taint, htaint, hi⟩
  obtain rfl := Option.some.inj (hm.symm.trans hnode)
  obtain ⟨d, hd, origin, horigin, hchain⟩ :=
    exists_leads_of_carries_arriving h hlocal hinputs ho hpath hc
  have hlast : a.Links d (frame.function.key id) := links_of_shows h hpath hnode
    (shows_of_checked hkind hrule (Node.mem_checkedArgs hchecks harg)) hd
  refine ⟨⟨origin, horigin, .tail' hchain (Or.inl hlast)⟩, fun hnone => ⟨origin, horigin, ?_⟩⟩
  have hlinks : ∀ d d', frame.Leads a d d' → a.Links d d' := fun d d' hleads =>
    hleads.resolve_right fun ⟨id, n, y, hn, _, hslips, _⟩ => hnone id n y hn hslips
  exact .tail' (Relation.ReflTransGen.mono hlinks origin d hchain) hlast

end Frame

/-! ### A command interpreter that passes something on -/

/-- Commands are read from outside, and the interpreter is checked for the command alone. -/
def commandRules : Registry :=
  ((Registry.empty ∅).addSink (.text "exec") ⟨[.rawCommandInterpreter], some [0]⟩).addSource
    (.text "read") "read" ⟨.networkParameter, none⟩

/-- Reads something, does something with it and executes the outcome. -/
def executing (step : Node) : Frame where
  function := .bare "f" "get" []
    [("get", { Node.bare .call ["step"] with api := .text "read", target := .text "x" }),
      ("step", step),
      ("use", { Node.bare .call [] with api := .text "exec", args := [some "y"] })]
  rules := commandRules
  effects _ := none
  globals := ∅
  known := .ofList ["f"]

def copyStep : Node := { Node.bare .assign ["use"] with target := .text "y", operands := ["x"] }

def runStep : Node :=
  { Node.bare .call ["use"] with api := .text "exec", args := [none, some "x"], target := .text "y" }

def received : Identity := ⟨.singleton .networkParameter, none, ∅⟩

theorem Frame.not_calls_of_calleeOf {frame : Frame}
    (h : ∀ entry ∈ frame.function.nodes.entries, frame.calleeOf entry.2 = none) (id : String) (n : Node)
    (callee : String) (hn : frame.function.node? id = some n) : ¬ frame.Calls n callee := by
  rintro ⟨-, effect, hrole⟩
  have hnone := h (id, n) (Table.mem_entries_iff.2 hn)
  exact Option.some_ne_none callee ((effect_of_role hrole).1.symm.trans hnone)

/-- The analysis of the function finds what was read in the executed argument. -/
theorem exists_received (step : Node) (check : Analysis → Bool)
    (h : ((executing step).analyze (.whole 50) ∅).toOption.any (fun a =>
      check a && (a.seen.sinks.get? "f::use").any (fun seen =>
        (seen.args[0]?).any (fun taint => taint.has received))) = true) :
    ∃ a seen taint, (executing step).analyze (.whole 50) ∅ = .ok a ∧ check a = true ∧
      a.seen.sinks.get? "f::use" = some seen ∧ seen.args[0]? = some taint ∧
      taint.has received = true := by
  obtain ⟨a, ha, h⟩ := Result.exists_ok_of_any h
  obtain ⟨hcheck, hsink⟩ := (Bool.and_eq_true _ _).mp h
  obtain ⟨seen, hseen, harg⟩ := (Option.any_eq_true _ _).1 hsink
  obtain ⟨taint, htaint, hhas⟩ := (Option.any_eq_true _ _).1 harg
  exact ⟨a, seen, taint, ha, hcheck, hseen, htaint, hhas⟩

/-- Edges lead from what was read over its copy to where it is executed. -/
theorem chain_of_sink_copyStep : ∃ a m, (executing copyStep).analyze (.whole 50) ∅ = .ok a ∧
    a.Enters .networkParameter m ∧ Relation.TransGen a.Links m "f::use" := by
  obtain ⟨a, seen, taint, ha, -, hseen, htaint, hhas⟩ :=
    exists_received copyStep (fun _ => true) (by decide +kernel)
  have hslips : ∀ id n y, (executing copyStep).function.node? id = some n →
      ¬ (executing copyStep).Slips n y := by
    intro id n y hn hslips
    have hunkept : ∀ entry ∈ (executing copyStep).function.nodes.entries,
        entry.2.targetSlot? = none ∨ (executing copyStep).rules.sink? entry.2.api = none := by
      decide +kernel
    obtain ⟨rule, hrule, -⟩ := hslips.unchecked
    rcases hunkept (id, n) (Table.mem_entries_iff.2 hn) with htarget | hnone
    · have hresult := hslips.result
      rw [htarget] at hresult
      cases hresult
    · cases hnone.symm.trans hrule
  have hnode : (executing copyStep).function.node? "use" =
      some { Node.bare .call [] with api := .text "exec", args := [some "y"] } := rfl
  obtain ⟨-, hchain⟩ := Frame.chain_of_sink ha (o := .networkParameter)
    (Frame.not_calls_of_calleeOf (by decide +kernel)) (fun x i hi => by cases hi) hnode rfl
    (by decide) hseen htaint hhas (by decide)
  obtain ⟨m, hm, hlinks⟩ := hchain hslips
  exact ⟨a, m, ha, hm, hlinks⟩

/-- **A sink that hands on what it does not check breaks the chain.**  What was read is executed in the
end, and no edge leaves the place where it was read. -/
theorem not_chain_runStep : (executing runStep).function.isValid (executing runStep).known = true ∧
    (∀ id n callee, (executing runStep).function.node? id = some n →
      ¬ (executing runStep).Calls n callee) ∧
    ∃ a rule seen taint, (executing runStep).analyze (.whole 50) ∅ = .ok a ∧
      (executing runStep).rules.sink? (.text "exec") = some rule ∧ rule.checks 0 = true ∧
      a.seen.sinks.get? "f::use" = some seen ∧ seen.args[0]? = some taint ∧
      taint.has received = true ∧
      ¬ ∃ m, a.Enters .networkParameter m ∧ Relation.TransGen a.Links m "f::use" := by
  refine ⟨by decide +kernel, Frame.not_calls_of_calleeOf (by decide +kernel), ?_⟩
  obtain ⟨a, seen, taint, ha, hcheck, hseen, htaint, hhas⟩ :=
    exists_received runStep (fun a =>
      a.seen.origins = OrderedMap.empty.set "f::get" (.singleton .networkParameter) &&
        a.seen.edges.toList.all (fun e => e.src ≠ "f::get")) (by decide +kernel)
  obtain ⟨horigins, hedges⟩ := (Bool.and_eq_true _ _).mp hcheck
  refine ⟨a, _, seen, taint, ha, rfl, by decide, hseen, htaint, hhas, ?_⟩
  rintro ⟨m, ⟨origins, hm, -⟩, hchain⟩
  obtain ⟨d, ⟨e, he, hsrc, -⟩, -⟩ := Relation.TransGen.head'_iff.1 hchain
  rw [of_decide_eq_true horigins, OrderedMap.get?_set] at hm
  have hkey : m = "f::get" := by
    by_contra hne
    rw [if_neg hne] at hm
    cases hm
  exact of_decide_eq_true (List.all_eq_true.1 hedges e he) (hsrc.trans hkey)

end TaintFlow
