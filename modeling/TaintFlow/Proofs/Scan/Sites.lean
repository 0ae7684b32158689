import TaintFlow.Proofs.Concrete.Worklist
import TaintFlow.Proofs.Rules.Registration
import TaintFlow.Proofs.Sink.Placement

/-!
# Every checked argument has a site

A rule for a sink declares a context (`layered_of_load`), so every checked argument of a sink call that is
not a literal has a context and is a site of the function (`mem_sinkSites_iff`).  What a pass has observed
at a sink is kept under the key of the call (`exists_node_of_sink`).
-/

namespace TaintFlow

/-! ### Rules for sinks -/

def Registry.Layered (r : Registry) : Prop := ∀ key rule, r.sinks.get? key = some rule → rule.layers ≠ []

namespace Registry

variable {r r' : Registry}

theorem Layered.addSink (h : r.Layered) {rule : SinkRule} (hrule : rule.layers ≠ []) (key : Key) :
    (r.addSink key rule).Layered := by
  intro other found hfound
  rw [Registry.addSink, OrderedMap.get?_set] at hfound
  split at hfound
  · cases hfound
    exact hrule
  · exact h other found hfound

theorem Layered.of_sinks_eq (h : r.Layered) (hsinks : r'.sinks = r.sinks) : r'.Layered := by
  unfold Layered
  rw [hsinks]
  exact h

theorem Layered.registerSource (h : r.Layered) {api origin : Document} {context : Option Document}
    (hr : r.registerSource api origin context = .ok r') : r'.Layered := by
  obtain ⟨_, -, hr⟩ := Result.exists_of_bind_eq_ok hr
  obtain ⟨_, -, hr⟩ := Result.exists_of_bind_eq_ok hr
  obtain ⟨_, -, hr⟩ := Result.exists_of_bind_eq_ok hr
  cases hr
  exact h.of_sinks_eq (sinks_resolveConflicts _ _ _)

theorem Layered.registerSink (h : r.Layered) {api contexts : Document} {args : Option Document}
    (hr : r.registerSink api contexts args = .ok r') : r'.Layered := by
  obtain ⟨layers, -, hr⟩ := Result.exists_of_bind_eq_ok hr
  split at hr
  · cases hr
  · next hlayers =>
    obtain ⟨_, -, hr⟩ := Result.exists_of_bind_eq_ok hr
    obtain ⟨_, -, hr⟩ := Result.exists_of_bind_eq_ok hr
    cases hr
    exact h.addSink (fun he => hlayers (List.isEmpty_iff.2 he)) _

theorem Layered.registerSanitizer (h : r.Layered) {api strength : Document}
    {contexts : Option Document} (hr : r.registerSanitizer api contexts strength = .ok r') :
    r'.Layered := by
  have hrest : ∀ (strength : Strength) (contexts : List Context),
      (if contexts.isEmpty && strength ≠ .parameterization then
        .error (.invalid (.sanitizerWithoutContext api.asText))
      else do
        return r.addSanitizer (← api.key) api.asText ⟨.ofList contexts, strength⟩) = Except.ok r' →
      r'.Layered := by
    intro strength contexts hr
    split at hr
    · cases hr
    · obtain ⟨_, -, hr⟩ := Result.exists_of_bind_eq_ok hr
      cases hr
      exact h.of_sinks_eq (sinks_resolveConflicts _ _ _)
  obtain ⟨strength, -, hr⟩ := Result.exists_of_bind_eq_ok hr
  dsimp only at hr
  split at hr
  · obtain ⟨contexts, -, hr⟩ := Result.exists_of_bind_eq_ok hr
    exact hrest strength contexts hr
  · exact hrest strength [] hr

theorem Layered.registerRule (h : r.Layered) {d : Document} (hr : r.registerRule d = .ok r') :
    r'.Layered := by
  unfold Registry.registerRule at hr
  dsimp only at hr
  split at hr
  · obtain ⟨fields, -, hr⟩ := Result.exists_of_bind_eq_ok hr
    split at hr
    · split at hr
      · split at hr
        · exact h.registerSource hr
        · split at hr
          · split at hr
            · exact h.registerSink hr
            · cases hr
          · split at hr
            · exact h.registerSanitizer hr
            · cases hr
      · cases hr
    · cases hr
  · cases hr

theorem Layered.addRule {loaded next : Loaded} (h : loaded.registry.Layered) {rule : Nat × Document}
    (hnext : addRule loaded rule = .ok next) : next.registry.Layered := by
  unfold Registry.addRule at hnext
  split at hnext
  · next registry hr =>
    cases hnext
    exact h.registerRule hr
  · split at hnext
    · cases hnext
      exact h
    · cases hnext

/-- **Every registry that is loaded from a document declares a context for every sink.** -/
theorem layered_of_load {d : Document} {loaded : Loaded} (hload : load d = .ok loaded) :
    loaded.registry.Layered := by
  unfold load at hload
  split at hload
  · obtain ⟨canonicalized, -, hload⟩ := Result.exists_of_bind_eq_ok hload
    exact Result.foldlM_induction (motive := fun loaded => loaded.registry.Layered) hload nofun
      fun _ _ _ _ hlayered hnext => hlayered.addRule hnext
  · cases hload

theorem Layered.layers_ne_nil (h : r.Layered) {api : Document} {rule : SinkRule}
    (hrule : r.sink? api = some rule) : rule.layers ≠ [] := by
  unfold sink? lookup at hrule
  split at hrule
  · obtain ⟨key, -, hrule⟩ := Option.bind_eq_some_iff.1 hrule
    exact h key rule hrule
  · cases hrule

end Registry

/-! ### What is observed at sinks -/

/-- What an analysis observed at a sink stands under the key of the call. -/
theorem Frame.exists_node_of_sink {frame : Frame} {visits : Amount} {inputs : KeyMap TaintSet}
    {a : Analysis} (h : frame.analyze visits inputs = .ok a) {key : String} {seen : SinkObservation}
    (hseen : a.seen.sinks.get? key = some seen) : key = frame.function.key seen.node ∧
      ∃ n, frame.function.node? seen.node = some n ∧ frame.IsSink n ∧
        seen.args.length = n.args.length := by
  obtain ⟨p, hp, rfl⟩ := analyze_eq_ok h
  have hinv := invariant_of_visits hp.1
  have hsame : (frame.finish p).seen.sinks = p.seen.sinks := rfl
  rw [hsame] at hseen
  obtain ⟨id, rfl⟩ : ∃ id, key = frame.function.key id := by
    by_contra hnot
    rw [(hinv.keyed key fun id he => hnot ⟨id, he⟩).1] at hseen
    cases hseen
  obtain ⟨n, s, hn, -, hsink, rfl⟩ := (hinv.sinks_iff hp.2).1 hseen
  refine ⟨rfl, n, hn, hsink, ?_⟩
  dsimp only
  rw [Node.argTaint, Node.argSlots, List.length_map, List.length_map]

/-! ### Sites -/

theorem Node.mem_indexedArgs {n : Node} {index : Nat} {slot : Option String} :
    (index, slot) ∈ n.indexedArgs ↔ n.args[index]? = some slot := mem_zip_range_iff

namespace SinkSite

variable {rules : Registry} {f : Function} {a : Analysis} {site : SinkSite}

theorem exists_ofArg {k : Placement.Knowledge} {rule : SinkRule} {id : String} {n : Node}
    {index : Nat} {slot : String} (hlayers : rule.layers ≠ []) (hchecks : rule.checks index = true) :
    ∃ site, ofArg? f k rule id n index (some slot) = some site := by
  obtain ⟨c, hc⟩ : ∃ c, contextOf f k rule id (n.enclosing.getD index []) (some slot) = some c := by
    refine Composite.exists_ofOutermost? fun he => hlayers ?_
    exact (List.append_eq_nil_iff.1 (List.append_eq_nil_iff.1 he).1).1
  unfold ofArg?
  rw [hc]
  dsimp only
  rw [if_pos hchecks]
  exact ⟨_, rfl⟩

theorem ofArg_eq_some {k : Placement.Knowledge} {rule : SinkRule} {id : String} {n : Node}
    {index : Nat} {slot : Option String} (h : ofArg? f k rule id n index slot = some site) :
    slot.isSome = true ∧ rule.checks index = true ∧ site.node = f.key id ∧ site.function = f.id ∧
      site.argIndex = .whole index := by
  unfold ofArg? at h
  split at h
  · split at h
    · next hchecks =>
      cases h
      exact ⟨rfl, hchecks, rfl, rfl, rfl⟩
    · cases h
  · cases h

theorem mem_ofFunction_iff : site ∈ ofFunction rules f a ↔ ∃ id n rule index slot,
    f.node? id = some n ∧ n.kind = .call ∧ rules.sink? n.api = some rule ∧
      n.args[index]? = some slot ∧
      ofArg? f ⟨a.seen.reaching, some a.seen.tainted⟩ rule id n index slot = some site := by
  unfold ofFunction
  dsimp only
  constructor
  · intro h
    obtain ⟨⟨id, n⟩, hn, h⟩ := List.mem_flatMap.1 h
    obtain ⟨hn, hkind⟩ := List.mem_filter.1 hn
    dsimp only at h
    split at h
    · cases h
    · next rule hrule =>
      obtain ⟨⟨index, slot⟩, harg, hsite⟩ := List.mem_filterMap.1 h
      exact ⟨id, n, rule, index, slot, Table.mem_entries_iff.1 hn, of_decide_eq_true hkind, hrule,
        Node.mem_indexedArgs.1 harg, hsite⟩
  · rintro ⟨id, n, rule, index, slot, hn, hkind, hrule, harg, hsite⟩
    refine List.mem_flatMap.2 ⟨(id, n), List.mem_filter.2 ⟨Table.mem_entries_iff.2 hn, ?_⟩, ?_⟩
    · exact decide_eq_true hkind
    · dsimp only
      rw [hrule]
      exact List.mem_filterMap.2 ⟨(index, slot), Node.mem_indexedArgs.2 harg, hsite⟩

end SinkSite

theorem Program.mem_analyzed_iff {p : Program} {analyses : Table Analysis} {f : Function}
    {a : Analysis} : (f, a) ∈ p.analyzed analyses ↔
      ∃ id, analyses.get? id = some a ∧ p.functions.get? id = some f := by
  unfold analyzed Table.sorted
  rw [List.mem_filterMap]
  constructor
  · rintro ⟨⟨id, b⟩, hmem, hf⟩
    obtain ⟨g, hg, he⟩ := Option.map_eq_some_iff.1 hf
    cases he
    exact ⟨id, Table.mem_entries_iff.1 ((List.mergeSort_perm _ _).mem_iff.1 hmem), hg⟩
  · rintro ⟨id, ha, hf⟩
    refine ⟨(id, a), (List.mergeSort_perm _ _).mem_iff.2 (Table.mem_entries_iff.2 ha), ?_⟩
    exact Option.map_eq_some_iff.2 ⟨f, hf, rfl⟩

/-- **The sites are those of the analysed functions.** -/
theorem Program.mem_sinkSites_iff {p : Program} {rules : Registry} {analyses : Table Analysis}
    {sites : List SinkSite} (h : p.sinkSites rules analyses = .ok sites) {site : SinkSite} :
    site ∈ sites ↔ ∃ id f a, analyses.get? id = some a ∧ p.functions.get? id = some f ∧
      site ∈ SinkSite.ofFunction rules f a := by
  unfold sinkSites at h
  dsimp only at h
  split at h
  · cases h
    rw [List.mem_flatMap]
    constructor
    · rintro ⟨⟨f, a⟩, hmem, hsite⟩
      obtain ⟨id, ha, hf⟩ := mem_analyzed_iff.1 hmem
      exact ⟨id, f, a, ha, hf, hsite⟩
    · rintro ⟨id, f, a, ha, hf, hsite⟩
      exact ⟨(f, a), mem_analyzed_iff.2 ⟨id, ha, hf⟩, hsite⟩
  · cases h

end TaintFlow
