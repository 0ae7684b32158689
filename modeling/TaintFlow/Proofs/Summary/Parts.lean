import Mathlib.Data.Finite.Prod
import TaintFlow.Proofs.Flow.Occurring
import TaintFlow.Proofs.Summary.Contents

/-!
# The parts of an effect

An effect says a number of single things (`Effect.Part`): that something flows into an output, that the
flow goes through unknown code, that the function makes a label, that it defines an output.  For the
effects of functions that could be analysed (`Effect.Plain`) the parts say all: two of them with the
same parts are the same at every call.

Of all parts only the crossings depend on the ways that labels took.  So a summary made from effects
that say more has all the parts of one made from less, if it has its crossings (`has_of_within`).  Which
parts the summary of a function can have at all is known beforehand, and they are finitely many.
-/

namespace TaintFlow

namespace Effect

/-- One thing that an effect can say. -/
inductive Part where
  | flow (input output : Atom)
  /-- The flow goes through code that is not modelled. -/
  | crossing (input output : Atom)
  | made (output : String) (label : Identity)
  | defined (output definition : String)

/-- The effect says so. -/
def Has (e : Effect) : Part → Prop
  | .flow input output => ∃ t ∈ e.transfers, t.input = input ∧ t.output = output
  | .crossing input output =>
    ∃ t ∈ e.transfers, t.input = input ∧ t.output = output ∧ t.unknown = true
  | .made output i => (e.generated.getD output ∅).has i = true
  | .defined output d => d ∈ e.exitDefs.getD output ∅

theorem same_iff {a b : Effect} : a.same b = true ↔
    a.unknown = b.unknown ∧ a.transfers = b.transfers ∧
      (a.generated.keys = b.generated.keys ∧ ∀ output s t, a.generated.get? output = some s →
        b.generated.get? output = some t → s.same t = true) ∧ a.exitDefs = b.exitDefs := by
  unfold same
  rw [Bool.and_eq_true, Bool.and_eq_true, Bool.and_eq_true, beq_iff_eq, beq_iff_eq, beq_iff_eq,
    OrderedMap.agrees_iff, and_assoc, and_assoc]

@[simp] theorem same_refl (a : Effect) : a.same a = true := by
  refine same_iff.2 ⟨rfl, rfl, ⟨rfl, ?_⟩, rfl⟩
  intro output s t hs ht
  rw [hs, Option.some.injEq] at ht
  rw [ht]
  exact TaintSet.same_iff.2 fun i => rfl

theorem has_iff_of_same {a b : Effect} (h : a.same b = true) (part : Part) : a.Has part ↔ b.Has part := by
  obtain ⟨-, htransfers, ⟨hkeys, hvalues⟩, hdefs⟩ := same_iff.1 h
  cases part with
  | flow input output => rw [Has, Has, htransfers]
  | crossing input output => rw [Has, Has, htransfers]
  | defined output d => rw [Has, Has, hdefs]
  | made output i =>
    have hexists : ∀ {s : TaintSet}, a.generated.get? output = some s →
        ∃ t, b.generated.get? output = some t := fun hs =>
      OrderedMap.mem_keys_iff.1 (hkeys ▸ OrderedMap.mem_keys_iff.2 ⟨_, hs⟩)
    have hexists' : ∀ {t : TaintSet}, b.generated.get? output = some t →
        ∃ s, a.generated.get? output = some s := fun ht =>
      OrderedMap.mem_keys_iff.1 (hkeys ▸ OrderedMap.mem_keys_iff.2 ⟨_, ht⟩)
    rw [Has, Has, OrderedMap.has_getD_iff, OrderedMap.has_getD_iff]
    constructor
    · rintro ⟨s, hs, hi⟩
      obtain ⟨t, ht⟩ := hexists hs
      exact ⟨t, ht, TaintSet.same_iff.1 (hvalues output s t hs ht) i ▸ hi⟩
    · rintro ⟨t, ht, hi⟩
      obtain ⟨s, hs⟩ := hexists' ht
      exact ⟨s, hs, (TaintSet.same_iff.1 (hvalues output s t hs ht) i).symm ▸ hi⟩

/-- An effect without anything that its parts do not say: it is known, each flow has one mark, and
nothing is listed without a label or a definition. -/
structure Plain (e : Effect) : Prop where
  known : e.unknown = false
  marks : ∀ t ∈ e.transfers, t.mark = .truth t.unknown
  single : ∀ t ∈ e.transfers, ∀ t' ∈ e.transfers, t.input = t'.input → t.output = t'.output → t = t'
  made : ∀ output taint, e.generated.get? output = some taint → ∃ i, taint.has i = true
  defined : ∀ output defs, e.exitDefs.get? output = some defs → ∃ d, d ∈ defs

namespace Plain

variable {e e' : Effect}

theorem mem_transfers (h : e.Plain) (h' : e'.Plain) (hiff : ∀ part, e.Has part ↔ e'.Has part)
    {t : Transfer} (ht : t ∈ e.transfers) : t ∈ e'.transfers := by
  obtain ⟨t', ht', hinput, houtput⟩ := (hiff (.flow t.input t.output)).1 ⟨t, ht, rfl, rfl⟩
  -- the marks agree, because a crossing of one effect is one of the other
  have hunknown : t'.unknown = t.unknown := by
    cases hcase : t.unknown with
    | true =>
      obtain ⟨u, hu, huinput, huoutput, hcross⟩ :=
        (hiff (.crossing t.input t.output)).1 ⟨t, ht, rfl, rfl, hcase⟩
      rw [h'.single t' ht' u hu (hinput.trans huinput.symm) (houtput.trans huoutput.symm)]
      exact hcross
    | false =>
      by_contra hne
      rw [Bool.not_eq_false] at hne
      obtain ⟨u, hu, huinput, huoutput, hcross⟩ :=
        (hiff (.crossing t.input t.output)).2 ⟨t', ht', hinput, houtput, hne⟩
      rw [h.single u hu t ht huinput huoutput, hcase] at hcross
      cases hcross
  have hmark : t'.mark = t.mark := by rw [h.marks t ht, h'.marks t' ht', hunknown]
  have heq : t' = t := by
    cases t
    cases t'
    cases hinput
    cases houtput
    cases hmark
    rfl
  exact heq ▸ ht'

theorem exists_made_iff (h : e.Plain) {output : String} :
    (∃ taint, e.generated.get? output = some taint) ↔ ∃ i, e.Has (.made output i) := by
  constructor
  · rintro ⟨taint, ht⟩
    obtain ⟨i, hi⟩ := h.made output taint ht
    exact ⟨i, OrderedMap.has_getD_iff.2 ⟨taint, ht, hi⟩⟩
  · rintro ⟨i, hi⟩
    obtain ⟨taint, ht, -⟩ := OrderedMap.has_getD_iff.1 hi
    exact ⟨taint, ht⟩

theorem mem_keys_exitDefs_iff (h : e.Plain) {output : String} :
    output ∈ e.exitDefs.keys ↔ ∃ d, e.Has (.defined output d) := by
  rw [OrderedMap.mem_keys_iff]
  constructor
  · rintro ⟨defs, hdefs⟩
    obtain ⟨d, hd⟩ := h.defined output defs hdefs
    exact ⟨d, OrderedMap.mem_getD_iff.2 ⟨defs, hdefs, hd⟩⟩
  · rintro ⟨d, hd⟩
    obtain ⟨defs, hdefs, -⟩ := OrderedMap.mem_getD_iff.1 hd
    exact ⟨defs, hdefs⟩

/-- **The parts say all.** -/
theorem same_of_has_iff (h : e.Plain) (h' : e'.Plain) (hiff : ∀ part, e.Has part ↔ e'.Has part) :
    e.same e' = true := by
  refine same_iff.2 ⟨h.known.trans h'.known.symm, ?_, ⟨?_, ?_⟩, ?_⟩
  · refine OrderedSet.eq_of_mem_iff fun t => ⟨h.mem_transfers h' hiff, ?_⟩
    exact h'.mem_transfers h fun part => (hiff part).symm
  · refine OrderedMap.keys_eq_of_iff fun output => ?_
    rw [h.exists_made_iff, h'.exists_made_iff]
    exact exists_congr fun i => hiff (.made output i)
  · intro output s t hs ht
    refine TaintSet.same_iff.2 fun i => ?_
    have hi := hiff (.made output i)
    simp only [Has, OrderedMap.getD, hs, ht, Option.getD_some] at hi
    exact Bool.eq_iff_iff.2 hi
  · refine OrderedMap.eq_of_get?_eq fun output => ?_
    have hdefs : ∀ d, d ∈ e.exitDefs.getD output ∅ ↔ d ∈ e'.exitDefs.getD output ∅ :=
      fun d => hiff (.defined output d)
    have hset := OrderedSet.eq_of_mem_iff hdefs
    have hkeys : output ∈ e.exitDefs.keys ↔ output ∈ e'.exitDefs.keys := by
      rw [h.mem_keys_exitDefs_iff, h'.mem_keys_exitDefs_iff]
      exact exists_congr fun d => hiff (.defined output d)
    rw [OrderedMap.mem_keys_iff, OrderedMap.mem_keys_iff] at hkeys
    unfold OrderedMap.getD at hset
    cases hget : e.exitDefs.get? output with
    | none =>
      cases hget' : e'.exitDefs.get? output with
      | none => rfl
      | some defs =>
        obtain ⟨other, hother⟩ := hkeys.2 ⟨defs, hget'⟩
        rw [hget] at hother
        cases hother
    | some defs =>
      obtain ⟨other, hother⟩ := hkeys.1 ⟨defs, hget⟩
      rw [hget, hother, Option.getD_some, Option.getD_some] at hset
      rw [hother, hset]

theorem below_of_has (h : e.Plain) (h' : e'.Plain) (himp : ∀ part, e.Has part → e'.Has part) :
    e.Below e' where
  unknown := h.known.trans h'.known.symm
  flows t ht := himp (.flow t.input t.output) ⟨t, ht, rfl, rfl⟩
  makes output i hi := himp (.made output i) hi
  writes output ho := by
    rw [h.mem_keys_exitDefs_iff] at ho
    rw [h'.mem_keys_exitDefs_iff]
    obtain ⟨d, hd⟩ := ho
    exact ⟨d, himp _ hd⟩

end Plain

end Effect

/-! ### The parts of a summary -/

theorem TaintSet.label_eq {s : TaintSet} {l l' : Label} (h : l ∈ s.labels) (h' : l' ∈ s.labels)
    (he : l.identity = l'.identity) : l = l' :=
  List.inj_on_of_nodup_map (List.pairwise_map.2 s.distinct) h h' he

namespace Summary

variable {f : Function} {a a' : Analysis}

theorem mem_definitions_iff {o : Output} {exit : State} {d : String} :
    d ∈ o.definitions exit ↔ exit.DefinedBy (.text o.slot) d ∧ o.initial ≠ some d := by
  unfold Output.definitions
  split
  · next key hkey =>
    rw [OrderedSet.mem_erase, hkey]
    exact and_congr_right fun _ => not_congr (by rw [Option.some.injEq, eq_comm])
  · next hnone =>
    rw [hnone]
    exact ⟨fun h => ⟨h, by simp⟩, And.left⟩

theorem mem_outputs_mono (hexit : a.exit.Within a'.exit) (hglobals : a'.globals = a.globals)
    {o : Output} (h : o ∈ outputs f a) : o ∈ outputs f a' := by
  simp only [outputs, List.cons_append, List.mem_cons, List.mem_append, hglobals] at h ⊢
  rcases h with hreturn | hparam | hglobal
  · exact Or.inl hreturn
  · exact Or.inr (Or.inl hparam)
  · refine Or.inr (Or.inr ?_)
    obtain ⟨name, hname, rfl⟩ := List.mem_map.1 hglobal
    obtain ⟨hname, hdefined⟩ := List.mem_filter.1 hname
    refine List.mem_map.2 ⟨name, List.mem_filter.2 ⟨hname, ?_⟩, rfl⟩
    rw [Bool.not_eq_true', OrderedSet.isEmpty_eq_false_iff] at hdefined ⊢
    obtain ⟨d, hd⟩ := hdefined
    rw [OrderedSet.mem_erase] at hd
    exact ⟨d, OrderedSet.mem_erase.2 ⟨hexit.2 _ d hd.1, hd.2⟩⟩

theorem has_crossing_iff {input output : Atom} : (ofAnalysis f a).Has (.crossing input output) ↔
    ∃ o ∈ outputs f a, ∃ l ∈ (a.exit.taintOf (some (.text o.slot))).labels, ∃ m ∈ l.symbols,
      l.crossedUnknown = true ∧ input = .text m ∧ output = .text o.marker := by
  simp only [Effect.Has, mem_transfers_iff]
  constructor
  · rintro ⟨t, ⟨o, ho, l, hl, m, hm, -, rfl⟩, rfl, rfl, hcross⟩
    exact ⟨o, ho, l, hl, m, hm, hcross, rfl, rfl⟩
  · rintro ⟨o, ho, l, hl, m, hm, hcross, rfl, rfl⟩
    exact ⟨_, ⟨o, ho, l, hl, m, hm, Or.inr hcross, rfl⟩, rfl, rfl, hcross⟩

/-- **A state at the end that holds more makes a summary that says more**, as far as crossings are
kept.  A flow of an output into itself is written down only when it is a crossing. -/
theorem has_of_within (hexit : a.exit.Within a'.exit) (hglobals : a'.globals = a.globals)
    (hcrossings : ∀ input output, (ofAnalysis f a).Has (.crossing input output) →
      (ofAnalysis f a').Has (.crossing input output)) (part : Effect.Part)
    (h : (ofAnalysis f a).Has part) : (ofAnalysis f a').Has part := by
  have houtputs : ∀ o ∈ outputs f a, o ∈ outputs f a' :=
    fun o ho => mem_outputs_mono hexit hglobals ho
  cases part with
  | flow input output =>
    obtain ⟨t, ht, rfl, rfl⟩ := h
    obtain ⟨o, ho, l, hl, m, hm, hcase, rfl⟩ := mem_transfers_iff.1 ht
    rcases hcase with hne | hcross
    · obtain ⟨l', hl', he⟩ := TaintSet.has_iff.1 (hexit.1 _ _ (TaintSet.has_iff.2 ⟨l, hl, rfl⟩))
      have hm' : m ∈ l'.symbols := by
        have hsymbols : l'.symbols = l.symbols := congrArg Identity.symbols he
        rwa [hsymbols]
      exact ⟨_, mem_transfers_iff.2 ⟨o, houtputs o ho, l', hl', m, hm', Or.inl hne, rfl⟩, rfl, rfl⟩
    · obtain ⟨t', ht', hinput, houtput, -⟩ := hcrossings (.text m) (.text o.marker)
        (has_crossing_iff.2 ⟨o, ho, l, hl, m, hm, hcross, rfl, rfl⟩)
      exact ⟨t', ht', hinput, houtput⟩
  | crossing input output => exact hcrossings input output h
  | made output i =>
    obtain ⟨o, ho, he, hi⟩ := has_getD_generated_iff.1 h
    obtain ⟨j, hj, horigins, rfl⟩ := TaintSet.has_concrete_iff.1 hi
    refine has_getD_generated_iff.2 ⟨o, houtputs o ho, he, ?_⟩
    exact TaintSet.has_concrete_iff.2 ⟨j, hexit.1 _ j hj, horigins, rfl⟩
  | defined output d =>
    obtain ⟨o, ho, he, hd⟩ := mem_getD_exitDefs_iff.1 h
    rw [mem_definitions_iff] at hd
    refine mem_getD_exitDefs_iff.2 ⟨o, houtputs o ho, he, ?_⟩
    exact mem_definitions_iff.2 ⟨hexit.2 _ d hd.1, hd.2⟩

/-- No summary says that a label with a marker is made. -/
theorem symbols_of_made {output : String} {i : Identity}
    (h : (ofAnalysis f a).Has (.made output i)) : i.symbols = ∅ := by
  obtain ⟨o, -, -, hi⟩ := has_getD_generated_iff.1 h
  obtain ⟨j, -, -, rfl⟩ := TaintSet.has_concrete_iff.1 hi
  rfl

theorem marker_of_mem_outputs {globals : Names} (hglobals : a.globals = f.globalsIn globals)
    {o : Output} (h : o ∈ outputs f a) :
    o.marker = returnSlot ∨ ∃ x, f.Input globals o.marker x := by
  simp only [outputs, List.cons_append, List.mem_cons, List.mem_append, List.mem_map,
    List.mem_filter, hglobals] at h
  rcases h with rfl | ⟨⟨index, p⟩, ⟨hp, -⟩, rfl⟩ | ⟨name, ⟨hname, -⟩, rfl⟩
  · exact Or.inl rfl
  · exact Or.inr ⟨_, .param (Function.mem_indexedParams_iff.1 hp)⟩
  · exact Or.inr ⟨_, .global hname⟩

end Summary

namespace Frame

variable {frame : Frame} {visits : Amount} {a : Analysis}

/-- A label with a marker at the end of a symbolic run is the label of an input. -/
theorem identity_of_symbol
    (h : frame.analyze visits (frame.function.symbolicInputs frame.globals) = .ok a)
    (hmarkers : ∀ i, frame.CalleesMake i → i.symbols = ∅) {x : Slot} {l : Label}
    (hl : l ∈ (a.exit.taintOf (some x)).labels) {m : String} (hm : m ∈ l.symbols) :
    l.identity = markerIdentity m ∧ ∃ y, frame.function.Input frame.globals m y := by
  have hcarries : a.exit.Carries x l.identity := TaintSet.has_iff.2 ⟨l, hl, rfl⟩
  rcases generates_or_marker h hcarries with hgen | ⟨m', y, he, -, hmarks⟩
  · have hnone : l.symbols = ∅ := hgen.symbols hmarkers
    rw [hnone] at hm
    exact absurd hm (OrderedSet.not_mem_empty m)
  · have hsymbols : l.symbols = .singleton m' := congrArg Identity.symbols he
    rw [hsymbols] at hm
    obtain rfl := OrderedSet.mem_singleton.1 hm
    exact ⟨he, y, hmarks.input⟩

/-- **The summary of a function is plain**, if nothing that it calls is said to make markers. -/
theorem plain_ofAnalysis
    (h : frame.analyze visits (frame.function.symbolicInputs frame.globals) = .ok a)
    (hmarkers : ∀ i, frame.CalleesMake i → i.symbols = ∅) :
    (Summary.ofAnalysis frame.function a).Plain where
  known := rfl
  marks t ht := by
    obtain ⟨o, -, l, -, m, -, -, rfl⟩ := Summary.mem_transfers_iff.1 ht
    rfl
  single t ht t' ht' hinput houtput := by
    obtain ⟨o, ho, l, hl, m, hm, -, rfl⟩ := Summary.mem_transfers_iff.1 ht
    obtain ⟨o', ho', l', hl', m', hm', -, rfl⟩ := Summary.mem_transfers_iff.1 ht'
    obtain rfl : m = m' := Atom.text.inj hinput
    obtain rfl : o = o' := Summary.output_eq_of_marker ho ho' (Atom.text.inj houtput)
    have hidentity := (identity_of_symbol h hmarkers hl hm).1.trans
      (identity_of_symbol h hmarkers hl' hm').1.symm
    rw [TaintSet.label_eq hl hl' hidentity]
  made output taint ht := by
    obtain ⟨o, -, -, -, hkeep⟩ := (Summary.get?_ofList_outputs _ a
      (fun o => (a.exit.taintOf (some (.text o.slot))).concrete) _ output taint).1 ht
    rw [Bool.not_eq_true'] at hkeep
    exact TaintSet.isEmpty_eq_false_iff.1 hkeep
  defined output defs hdefs := by
    obtain ⟨o, -, -, -, hkeep⟩ := (Summary.get?_ofList_outputs _ a
      (fun o => o.definitions a.exit) _ output defs).1 hdefs
    rw [Bool.not_eq_true'] at hkeep
    exact OrderedSet.isEmpty_eq_false_iff.1 hkeep

/-! ### The parts that a summary can have -/

/-- The marker of an input, or the result. -/
def IsPort (frame : Frame) (m : String) : Prop :=
  m = returnSlot ∨ ∃ x, frame.function.Input frame.globals m x

/-- A definition that stands at the entry, or that a node makes. -/
def IsDefinition (frame : Frame) (d : String) : Prop :=
  (∃ x, (frame.entryState (frame.function.symbolicInputs frame.globals)).DefinedBy x d) ∨
    ∃ id n, frame.function.node? id = some n ∧ d = frame.function.key id

/-- The parts that a summary of the function may have when it makes labels of a given set only. -/
def Possible (frame : Frame) (labels : Set Identity) : Effect.Part → Prop
  | .flow input output => ∃ m o, frame.IsPort m ∧ frame.IsPort o ∧ input = .text m ∧ output = .text o
  | .crossing input output =>
    ∃ m o, frame.IsPort m ∧ frame.IsPort o ∧ input = .text m ∧ output = .text o
  | .made output i => frame.IsPort output ∧ i ∈ labels
  | .defined output d => frame.IsPort output ∧ frame.IsDefinition d

theorem finite_isPort (frame : Frame) : {m | frame.IsPort m}.Finite := by
  let markers := returnSlot :: receiverMarker ::
    ((List.range frame.function.params.length).map paramMarker ++
      (frame.function.globalsIn frame.globals).toList.map globalMarker)
  refine (List.finite_toSet markers).subset ?_
  rintro m (rfl | ⟨x, hx⟩)
  · exact List.mem_cons_self
  · refine List.mem_cons_of_mem _ (List.mem_cons.2 ?_)
    cases hx with
    | @param index p hp =>
      obtain ⟨hlt, -⟩ := List.getElem?_eq_some_iff.1 hp
      refine Or.inr (List.mem_append_left _ (List.mem_map.2 ⟨index, ?_, rfl⟩))
      exact List.mem_range.2 hlt
    | receiver => exact Or.inl rfl
    | global hname => exact Or.inr (List.mem_append_right _ (List.mem_map.2 ⟨_, hname, rfl⟩))

theorem finite_isDefinition (frame : Frame) : {d | frame.IsDefinition d}.Finite :=
  (State.finite_definedBy _).union
    (finite_exists_node frame.function (fun id _ d => d = frame.function.key id)
      fun _ _ => Set.finite_singleton _)

theorem finite_possible (frame : Frame) {labels : Set Identity} (h : labels.Finite) :
    {part | frame.Possible labels part}.Finite := by
  have hports := frame.finite_isPort
  have hflows := (hports.prod hports).image fun p => Effect.Part.flow (.text p.1) (.text p.2)
  have hcrossings := (hports.prod hports).image fun p =>
    Effect.Part.crossing (.text p.1) (.text p.2)
  have hmade := (hports.prod h).image fun p => Effect.Part.made p.1 p.2
  have hdefined := (hports.prod frame.finite_isDefinition).image fun p =>
    Effect.Part.defined p.1 p.2
  refine (hflows.union (hcrossings.union (hmade.union hdefined))).subset ?_
  intro part hpart
  cases part with
  | flow input output =>
    obtain ⟨m, o, hm, ho, rfl, rfl⟩ := hpart
    exact Or.inl ⟨(m, o), ⟨hm, ho⟩, rfl⟩
  | crossing input output =>
    obtain ⟨m, o, hm, ho, rfl, rfl⟩ := hpart
    exact Or.inr (Or.inl ⟨(m, o), ⟨hm, ho⟩, rfl⟩)
  | made output i => exact Or.inr (Or.inr (Or.inl ⟨(output, i), hpart, rfl⟩))
  | defined output d => exact Or.inr (Or.inr (Or.inr ⟨(output, d), hpart, rfl⟩))

/-- A summary has only parts that are possible. -/
theorem possible_of_has
    (h : frame.analyze visits (frame.function.symbolicInputs frame.globals) = .ok a)
    (hmarkers : ∀ i, frame.CalleesMake i → i.symbols = ∅) {labels : Set Identity}
    (hlabels : ∀ i, frame.rules.Fresh i ∨ frame.CalleesMake i → i ∈ labels) {part : Effect.Part}
    (hpart : (Summary.ofAnalysis frame.function a).Has part) : frame.Possible labels part := by
  have hport : ∀ o ∈ Summary.outputs frame.function a, frame.IsPort o.marker := fun o ho =>
    Summary.marker_of_mem_outputs (globals_of_analyze h) ho
  cases part with
  | flow input output =>
    obtain ⟨t, ht, rfl, rfl⟩ := hpart
    obtain ⟨o, ho, l, hl, m, hm, -, rfl⟩ := Summary.mem_transfers_iff.1 ht
    exact ⟨m, o.marker, Or.inr (identity_of_symbol h hmarkers hl hm).2, hport o ho, rfl, rfl⟩
  | crossing input output =>
    obtain ⟨o, ho, l, hl, m, hm, -, rfl, rfl⟩ := Summary.has_crossing_iff.1 hpart
    exact ⟨m, o.marker, Or.inr (identity_of_symbol h hmarkers hl hm).2, hport o ho, rfl, rfl⟩
  | made output i =>
    obtain ⟨o, ho, rfl, hi⟩ := Summary.has_getD_generated_iff.1 hpart
    obtain ⟨j, hj, horigins, rfl⟩ := TaintSet.has_concrete_iff.1 hi
    refine ⟨hport o ho, ?_⟩
    rcases generates_or_marker h hj with hmade | ⟨m, y, rfl, -⟩
    · rw [← hmade.symbols hmarkers]
      exact hlabels j (made_of_generates hmade)
    · cases horigins
  | defined output d =>
    obtain ⟨o, ho, rfl, hd⟩ := Summary.mem_getD_exitDefs_iff.1 hpart
    refine ⟨hport o ho, ?_⟩
    exact (definedBy_exit h (Summary.mem_definitions_iff.1 hd).1).imp_left fun hx => ⟨_, hx⟩

end Frame

end TaintFlow
