import TaintFlow.Proofs.Flow.Faults
import TaintFlow.Proofs.Flow.Tapped
import TaintFlow.Proofs.Summary.Parts

/-!
# Functions that hand on their parameters

A function forwards to another one if it takes the same parameters, calls the other one with them, in
order, keeps the result in a slot of its own and returns it.  There is one way through such a function, so
what it returns is what the call leaves in the slots that are read on that way
(`Frame.carries_return_of_forwards`).  Since the call passes the parameters under their own names, whatever
the called function writes to one of its slots lands in the slot of that name here, and the result lands in
the kept slot (`PassesOn.lands_output`).  The way takes two visits, so the analysis ends
(`Forwards.analyze_cases`).

The inputs of the called function stand for the same slots here, with one exception: a global that only
the called function mentions is no input of the function that forwards to it
(`Forwards.not_isInput_global`).
-/

namespace TaintFlow

/-! ### Parameters of different names -/

theorem length_eraseDups_le {α : Type} [DecidableEq α] (l : List α) :
    l.eraseDups.length ≤ l.length := by
  induction hn : l.length using Nat.strongRecOn generalizing l with
  | ind n ih =>
    cases l with
    | nil => exact Nat.zero_le n
    | cons a rest =>
      rw [List.length_cons] at hn
      have hfilter := rest.length_filter_le (fun b => !b == a)
      have hrest := ih (rest.filter (fun b => !b == a)).length (by omega) _ rfl
      rw [List.eraseDups_cons, List.length_cons]
      omega

/-- A list that loses nothing when its repetitions are left out has none. -/
theorem nodup_of_length_eraseDups {α : Type} [DecidableEq α] {l : List α}
    (h : l.eraseDups.length = l.length) : l.Nodup := by
  induction l with
  | nil => exact List.nodup_nil
  | cons a rest ih =>
    rw [List.eraseDups_cons, List.length_cons, List.length_cons] at h
    have hfilter := rest.length_filter_le (fun b => !b == a)
    have hle := length_eraseDups_le (rest.filter (fun b => !b == a))
    have hall : rest.filter (fun b => !b == a) = rest := by
      refine List.filter_eq_self.2 (List.length_filter_eq_length_iff.1 ?_)
      omega
    rw [hall] at h
    refine List.nodup_cons.2 ⟨fun hmem => ?_, ih (by omega)⟩
    have := List.filter_eq_self.1 hall a hmem
    simp at this

namespace OrderedMap

/-- What is found stays found when absent entries are filled in. -/
theorem get?_foldl_setIfAbsent_of_eq_some {κ α β : Type} [Ord κ] [Std.TransOrd κ]
    [Std.LawfulEqOrd κ] [DecidableEq κ] (slot : β → κ) (value : β → α) (l : List β)
    {m : OrderedMap κ α} {x : κ} {a : α} (h : m.get? x = some a) :
    (l.foldl (fun m b => m.setIfAbsent (slot b) (value b)) m).get? x = some a := by
  induction l generalizing m with
  | nil => exact h
  | cons b rest ih =>
    refine ih ?_
    unfold setIfAbsent contains
    dsimp only
    split
    · exact h
    · next habsent =>
      by_cases he : x = slot b
      · rw [← he, h] at habsent
        exact absurd rfl habsent
      · rw [get?_set_ne _ _ he]
        exact h

end OrderedMap

namespace Function

variable {f : Function} {globals : Names} {m m' : String} {x : Slot}

theorem length_eraseDups_of_isValid {known : Names} (h : f.isValid known = true) :
    f.paramNames.eraseDups.length = f.paramNames.length := by
  rw [isValid, Option.isNone_iff_eq_none] at h
  unfold defect? at h
  split at h
  · cases h
  · split at h
    · cases h
    · next hdups => exact not_not.1 hdups

theorem nodup_paramNames_of_isValid {known : Names} (h : f.isValid known = true) :
    f.paramNames.Nodup := nodup_of_length_eraseDups (length_eraseDups_of_isValid h)

theorem Marks.marker_eq (h : f.Marks globals m x) (h' : f.Marks globals m' x) : m = m' := by
  obtain ⟨taint, ht, hi⟩ := OrderedMap.has_getD_iff.1 h
  obtain ⟨taint', ht', hi'⟩ := OrderedMap.has_getD_iff.1 h'
  obtain rfl : taint = taint' := Option.some.inj (ht.symm.trans ht')
  obtain ⟨-, marker, key, -, rfl⟩ := (f.marked_symbolicInputs globals).2 x taint ht
  rw [TaintSet.has_of] at hi hi'
  exact markerIdentity_injective (hi.trans hi'.symm)

theorem marks_param (hreceiver : f.receiverSlot? = none) (hnodup : f.paramNames.Nodup) {index : Nat}
    {p : Param} (hp : f.params[index]? = some p) : f.Marks globals (paramMarker index) (.text p.name) := by
  let entries : List (Slot × TaintSet) := f.indexedParams.map (fun entry =>
    (.text entry.2.name, .of (.symbolic (paramMarker entry.1) (f.paramKey entry.1))))
  have hkeys : (entries.map Prod.fst).Nodup := by
    have hfst : entries.map Prod.fst = f.paramNames.map Key.text := by
      have hsnd : f.indexedParams.map Prod.snd = f.params := List.map_snd_zip (by simp)
      rw [paramNames, ← hsnd, List.map_map, List.map_map, List.map_map]
      rfl
    rw [hfst]
    exact hnodup.map fun a b h => Key.text.inj h
  have hfold : f.indexedParams.foldl (fun (m : KeyMap TaintSet) entry =>
      m.set (.text entry.2.name) (.of (.symbolic (paramMarker entry.1) (f.paramKey entry.1)))) ∅ =
        entries.foldl (fun m entry => m.set entry.1 entry.2) ∅ := by
    rw [List.foldl_map]
  have hget : (f.symbolicInputs globals).get? (.text p.name) =
      some (.of (.symbolic (paramMarker index) (f.paramKey index))) := by
    unfold symbolicInputs
    dsimp only
    rw [hreceiver]
    refine OrderedMap.get?_foldl_setIfAbsent_of_eq_some _ _ _ ?_
    refine (congrArg (OrderedMap.get? · (.text p.name)) hfold).trans ?_
    rw [OrderedMap.get?_foldl_set _ _ _ hkeys]
    have hlookup : entries.lookup (.text p.name) =
        some (.of (.symbolic (paramMarker index) (f.paramKey index))) :=
      (mem_iff_lookup_eq_some hkeys).1
        (List.mem_map.2 ⟨(index, p), mem_indexedParams_iff.2 hp, rfl⟩)
    rw [hlookup]
    rfl
  exact OrderedMap.has_getD_iff.2 ⟨_, hget, TaintSet.has_of.2 rfl⟩

end Function

theorem Summary.mem_outputs_cases {f : Function} {a : Analysis} {o : Output} (h : o ∈ outputs f a) :
    o = ⟨returnSlot, returnSlot, none⟩ ∨
      (∃ index p, f.params[index]? = some p ∧ p.out = true ∧
        o = ⟨paramMarker index, p.name, some (f.paramKey index)⟩) ∨
      ∃ name ∈ a.globals, o = ⟨globalMarker name, name, some (globalKey name)⟩ := by
  simp only [outputs, List.cons_append, List.mem_cons, List.mem_append, List.mem_map,
    List.mem_filter] at h
  rcases h with rfl | ⟨⟨index, p⟩, ⟨hp, hout⟩, rfl⟩ | ⟨name, ⟨hname, -⟩, rfl⟩
  · exact Or.inl rfl
  · exact Or.inr (Or.inl ⟨index, p, Function.mem_indexedParams_iff.1 hp, hout, rfl⟩)
  · exact Or.inr (Or.inr ⟨name, hname, rfl⟩)

theorem Node.inputSlot?_paramMarker {n : Node} {index : Nat} {x : Slot}
    (h : n.argSlots[index]? = some (some x)) : n.inputSlot? (paramMarker index) = some x := by
  have hkeys : ((((List.range n.argSlots.length).map paramMarker).zip n.argSlots).map
      Prod.fst).Nodup := by
    rw [List.map_fst_zip (by simp)]
    exact List.nodup_range.map fun i j hij => paramMarker_injective hij
  have hmem : (paramMarker index, some x) ∈
      ((List.range n.argSlots.length).map paramMarker).zip n.argSlots := by
    rw [List.zip_map_left]
    exact List.mem_map.2 ⟨(index, some x), mem_zip_range_iff.2 h, rfl⟩
  unfold inputSlot?
  rw [globalOfMarker?_paramMarker]
  dsimp only
  rw [List.lookup_append, (mem_iff_lookup_eq_some hkeys).1 hmem]
  rfl

/-! ### The shape of the function -/

namespace Node

/-- The node calls `g` with its parameters, in order, keeps the result and goes on. -/
structure PassesOn (n : Node) (g : Function) (rules : Registry) (kept next : String) : Prop where
  kind : n.kind = .call
  callee : n.callee = .text g.id
  resolved : n.dynamic = false
  source : rules.source? n.api = none
  sanitizer : rules.isSanitizer n.api = false
  args : n.args = g.paramNames.map some
  receiver : n.receiver = .null
  target : n.targetSlot? = some (.text kept)
  succ : n.succ = [next]

/-- The node returns what was kept. -/
structure HandsBack (n : Node) (kept : String) : Prop where
  kind : n.kind = .ret
  operands : n.operands = [kept]
  target : n.targetSlot? = none
  succ : n.succ = []

end Node

/-- `w` takes the parameters of `g`, calls `g` with them and returns the result, and mentions no slot but
the one in which it keeps the result. -/
structure Function.Forwards (w g : Function) (rules : Registry) (globals : Names) (kept : String) :
    Prop where
  params : w.params = g.params
  receiver : w.receiverSlot? = none
  own : kept ∉ g.paramNames
  hidden : kept ∉ globals
  body : ∃ last call back, w.node? w.entry = some call ∧ call.PassesOn g rules kept last ∧
    w.node? last = some back ∧ back.HandsBack kept ∧
    ∀ id n, w.node? id = some n → id = w.entry ∨ id = last

namespace Node.PassesOn

variable {n : Node} {g : Function} {rules : Registry} {kept next : String}

theorem getElem?_argSlots (h : n.PassesOn g rules kept next) (index : Nat) :
    n.argSlots[index]? = (g.params[index]?).map (fun p => some (Key.text p.name)) := by
  rw [Node.argSlots, h.args, Function.paramNames, List.map_map, List.map_map, List.getElem?_map]
  rfl

theorem reads (h : n.PassesOn g rules kept next) : n.reads = g.paramNames.map Key.text := by
  have hreceiver : n.receiverSlot? = none := by
    rw [Node.receiverSlot?, h.receiver]
    rfl
  rw [Node.reads, if_pos h.kind, hreceiver, Option.toList_none, List.append_nil, Node.argSlots, h.args,
    List.map_map, List.filterMap_map]
  show g.paramNames.filterMap (some ∘ Key.text) = g.paramNames.map Key.text
  rw [List.filterMap_eq_map]

theorem inputSlot?_of_input (h : n.PassesOn g rules kept next) (hreceiver : g.receiverSlot? = none)
    {globals : Names} {m : String} {x : Slot} (hm : g.Input globals m x) :
    n.inputSlot? m = some x := by
  cases hm with
  | @param index p hp =>
    have hslot : n.argSlots[index]? = some (some (.text p.name)) := by
      rw [h.getElem?_argSlots, hp]
      rfl
    exact Node.inputSlot?_paramMarker hslot
  | receiver hr =>
    rw [hreceiver] at hr
    cases hr
  | global hname => exact Node.inputSlot?_globalMarker n _

/-- The result lands in the kept slot, and any other output of `g` in the slot that it has in `g`. -/
theorem lands_output (h : n.PassesOn g rules kept next) {globals : Names} (hown : kept ∉ g.paramNames)
    (hhidden : kept ∉ globals) {a : Analysis} (hglobals : a.globals = g.globalsIn globals)
    {o : Summary.Output} (ho : o ∈ Summary.outputs g a) {x : Slot}
    (hx : Effect.Lands n (.text o.marker) x) :
    (o.slot = returnSlot ∧ x = .text kept) ∨ (x = .text o.slot ∧ o.slot ≠ kept) := by
  rcases Summary.mem_outputs_cases ho with rfl | ⟨index, p, hp, -, rfl⟩ | ⟨name, hname, rfl⟩
  · rcases hx with ⟨-, htarget⟩ | hslot
    · rw [h.target, Option.some.injEq] at htarget
      exact Or.inl ⟨rfl, htarget.symm⟩
    · have hnone : Effect.outputSlot? n (.text returnSlot) = none := rfl
      rw [hnone] at hslot
      cases hslot
  · have hslot := Effect.getElem?_of_lands_paramMarker hx
    rw [h.getElem?_argSlots, hp, Option.map_some, Option.some.injEq, Option.some.injEq] at hslot
    refine Or.inr ⟨hslot.symm, fun he => hown ?_⟩
    exact List.mem_map.2 ⟨p, List.mem_of_getElem? hp, he⟩
  · rw [hglobals] at hname
    refine Or.inr ⟨Effect.eq_of_lands_globalMarker hx, fun he => hhidden ?_⟩
    exact he ▸ (OrderedSet.mem_filter.1 hname).1

end Node.PassesOn

/-! ### The way through the function -/

namespace Function.Forwards

variable {w g : Function} {rules : Registry} {globals : Names} {kept : String}

theorem mem_slots (h : w.Forwards g rules globals kept) {name : String} (hmem : Key.text name ∈ w.slots) :
    name ∈ g.paramNames ∨ name = kept := by
  obtain ⟨last, call, back, hcall, hpasses, hback, hhands, honly⟩ := h.body
  have hnames : w.paramNames = g.paramNames := by
    rw [paramNames, h.params]
    rfl
  rw [slots, OrderedSet.mem_ofList, h.receiver, hnames] at hmem
  rcases List.mem_append.1 hmem with hparam | hnode
  · rw [Option.toList_none, List.append_nil] at hparam
    obtain ⟨name', hname, he⟩ := List.mem_map.1 hparam
    exact Or.inl (Key.text.inj he ▸ hname)
  · obtain ⟨n, hn, hx⟩ := List.mem_flatMap.1 hnode
    obtain ⟨id, hid⟩ := Table.mem_values_iff.1 hn
    have hid : w.node? id = some n := hid
    rcases honly id n hid with rfl | rfl
    · obtain rfl : n = call := Option.some.inj (hid.symm.trans hcall)
      rw [hpasses.reads, hpasses.target, Option.toList_some] at hx
      rcases List.mem_append.1 hx with hx | hx
      · obtain ⟨name', hname, he⟩ := List.mem_map.1 hx
        exact Or.inl (Key.text.inj he ▸ hname)
      · exact Or.inr (Key.text.inj (List.mem_singleton.1 hx))
    · obtain rfl : n = back := Option.some.inj (hid.symm.trans hback)
      have hkind : n.kind ≠ .call := by
        rw [hhands.kind]
        decide
      rw [Node.reads, if_neg hkind, Node.operandSlots, hhands.operands, hhands.target,
        Option.toList_none, List.append_nil] at hx
      exact Or.inr (Key.text.inj (List.mem_singleton.1 hx))

theorem not_isInput_global (h : w.Forwards g rules globals kept) {name : String}
    (hname : name ∉ g.paramNames) : ¬ w.IsInput globals (.text name) := by
  rintro ⟨m, hm⟩
  generalize hx : Key.text name = x at hm
  cases hm with
  | @param index p hp =>
    rw [h.params] at hp
    exact hname (List.mem_map.2 ⟨p, List.mem_of_getElem? hp, (Key.text.inj hx).symm⟩)
  | receiver hr =>
    rw [h.receiver] at hr
    cases hr
  | @global name' hglobal =>
    obtain rfl := Key.text.inj hx
    obtain ⟨hglobal, hslot⟩ := OrderedSet.mem_filter.1 hglobal
    rcases h.mem_slots (of_decide_eq_true hslot) with hparam | rfl
    · exact hname hparam
    · exact h.hidden hglobal

theorem isValid (h : w.Forwards g rules globals kept) {known : Names} (hvalid : g.isValid known = true)
    (hknown : g.id ∈ known) : w.isValid known = true := by
  obtain ⟨last, call, back, hcall, hpasses, hback, hhands, honly⟩ := h.body
  have hnames : w.paramNames = g.paramNames := congrArg (List.map Param.name) h.params
  have hcontains : ∀ {id : String} {n : Node}, w.node? id = some n → w.nodes.contains id = true :=
    fun hn => Option.isSome_iff_exists.2 ⟨_, hn⟩
  have hnodes : w.nodes.entries.findSome? (fun entry => entry.2.defect? w known entry.1) = none := by
    rw [List.findSome?_eq_none_iff]
    rintro ⟨id, n⟩ hn
    have hn : w.node? id = some n := Table.mem_entries_iff.1 hn
    rcases honly id n hn with rfl | rfl
    · obtain rfl : n = call := Option.some.inj (hn.symm.trans hcall)
      simp [Node.defect?, hpasses.succ, hpasses.kind, hpasses.callee, hcontains hback, Document.isNull,
        Node.isKnown, hknown]
    · obtain rfl : n = back := Option.some.inj (hn.symm.trans hback)
      simp [Node.defect?, hhands.succ, hhands.kind]
  rw [Function.isValid, Option.isNone_iff_eq_none, defect?, hcontains hcall, hnames, if_neg (by simp),
    if_neg (not_not.2 (length_eraseDups_of_isValid hvalid))]
  exact hnodes

theorem path_cases {last : String} {call back : Node} (hcall : w.node? w.entry = some call)
    (hpasses : call.PassesOn g rules kept last) (hback : w.node? last = some back)
    (hhands : back.HandsBack kept) {ids : List String} {id : String}
    (hpath : w.Path ids id) : (ids = [] ∧ id = w.entry) ∨ (ids = [w.entry] ∧ id = last) := by
  induction hpath with
  | entry => exact Or.inl ⟨rfl, rfl⟩
  | @step ids id succ n _ hnode hsucc ih =>
    rcases ih with ⟨rfl, rfl⟩ | ⟨rfl, rfl⟩
    · obtain rfl : n = call := Option.some.inj (hnode.symm.trans hcall)
      rw [hpasses.succ, List.mem_singleton] at hsucc
      exact Or.inr ⟨rfl, hsucc⟩
    · obtain rfl : n = back := Option.some.inj (hnode.symm.trans hback)
      rw [hhands.succ] at hsucc
      cases hsucc

end Function.Forwards

namespace Frame

variable {frame : Frame} {g : Function} {kept : String} {e : Effect} {inputs : KeyMap TaintSet}
  {visits : Amount} {a : Analysis}

/-- The call is followed, if `g` is a function of the program with a known effect. -/
theorem role_of_passesOn {n : Node} {next : String} (h : n.PassesOn g frame.rules kept next)
    (hknown : g.id ∈ frame.known) (he : frame.effects g.id = some e) (hunknown : e.unknown = false) :
    frame.role n = .resolved g.id e := by
  have hcallee : frame.calleeOf n = some g.id := by
    rw [calleeOf, h.callee]
    exact if_pos ⟨h.resolved, hknown⟩
  unfold role
  rw [h.source, h.sanitizer, hcallee]
  simp [he, hunknown]

/-- **What leaves the function is what the call leaves** in the kept slot and in the slot of the
result. -/
theorem carries_return_of_forwards (h : frame.function.Forwards g frame.rules frame.globals kept)
    (hknown : g.id ∈ frame.known) (he : frame.effects g.id = some e) (hunknown : e.unknown = false)
    (ha : frame.analyze visits inputs = .ok a) : ∃ call next,
      frame.function.node? frame.function.entry = some call ∧ call.PassesOn g frame.rules kept next ∧
      ∀ i, a.exit.Carries (.text returnSlot) i ↔
        (e.apply frame.globals call (frame.entryState inputs)
          (frame.function.key frame.function.entry)).Carries (.text returnSlot) i ∨
        (e.apply frame.globals call (frame.entryState inputs)
          (frame.function.key frame.function.entry)).Carries (.text kept) i := by
  obtain ⟨last, call, back, hcall, hpasses, hback, hhands, -⟩ := h.body
  refine ⟨call, last, hcall, hpasses, fun i => ?_⟩
  obtain ⟨p, hp, rfl⟩ := analyze_eq_ok ha
  let after := e.apply frame.globals call (frame.entryState inputs)
    (frame.function.key frame.function.entry)
  have hfirst : frame.arriving inputs [frame.function.entry] = after := by
    have hstep := arriving_concat hcall inputs []
    rw [List.nil_append] at hstep
    rw [hstep, transfer, hpasses.kind]
    dsimp only
    rw [transferCall, role_of_passesOn hpasses hknown he hunknown]
    rfl
  have hsecond : ∀ x i, (frame.arriving inputs ([frame.function.entry] ++ [last])).Carries x i ↔
      after.Carries x i ∨ (x = .text returnSlot ∧ after.Carries (.text kept) i) := by
    intro x i
    rw [arriving_concat hback, hfirst, (frame.describes_transfer last back).carries_iff, wiring,
      hhands.kind]
    simp only [Wiring.extend, Node.operandSlots, hhands.operands, List.map_cons, List.map_nil,
      List.mem_singleton, false_or]
    constructor
    · rintro ⟨y, rfl | ⟨hx, rfl⟩, hc⟩
      · exact Or.inl hc
      · exact Or.inr ⟨hx, hc⟩
    · rintro (hc | ⟨hx, hc⟩)
      · exact ⟨x, Or.inl rfl, hc⟩
      · exact ⟨.text kept, Or.inr ⟨hx, rfl⟩, hc⟩
  have hexit : (frame.finish p).exit.Carries (.text returnSlot) i ↔ _ :=
    (invariant_of_visits hp.1).carries_exitState_iff hp.2 (.text returnSlot) i
  rw [hexit]
  constructor
  · rintro ⟨ids, id, hpath, hleaves, hc⟩
    rcases Function.Forwards.path_cases hcall hpasses hback hhands hpath with ⟨rfl, rfl⟩ | ⟨rfl, rfl⟩
    · rw [leavesAt, hcall] at hleaves
      simp [hpasses.kind, hpasses.succ] at hleaves
    · exact ((hsecond _ i).1 hc).imp_right And.right
  · intro hc
    refine ⟨[frame.function.entry], last, ?_, ?_, (hsecond _ i).2 (hc.imp_right fun hk => ⟨rfl, hk⟩)⟩
    · exact (Function.Path.entry (f := frame.function)).step hcall (by simp [hpasses.succ])
    · rw [leavesAt, hback]
      simp [hhands.kind]

end Frame

/-! ### Its analysis ends -/

namespace Function.Forwards

variable {frame : Frame} {g : Function} {rules : Registry} {globals : Names} {kept : String}

theorem ne_entry {last : String} {call back : Node}
    (hcall : frame.function.node? frame.function.entry = some call)
    (hpasses : call.PassesOn g rules kept last) (hback : frame.function.node? last = some back)
    (hhands : back.HandsBack kept) : last ≠ frame.function.entry := by
  rintro rfl
  obtain rfl : call = back := Option.some.inj (hcall.symm.trans hback)
  have hkind := hpasses.kind.symm.trans hhands.kind
  cases hkind

/-- Two visits end the analysis, unless the call cannot be made at all. -/
theorem loop_cases (h : frame.function.Forwards g rules globals kept) (budget : Amount) (fuel : Nat)
    (inputs : KeyMap TaintSet) :
    (∃ p, frame.loop budget (fuel + 2) (frame.start inputs) = .ok p) ∨
      ∃ fault, frame.loop budget (fuel + 2) (frame.start inputs) = .error fault ∧
        fault.isLocal = false := by
  obtain ⟨last, call, back, hcall, hpasses, hback, hhands, -⟩ := h.body
  have hne := ne_entry hcall hpasses hback hhands
  have hqueue : (frame.start inputs).queue = [frame.function.entry] := rfl
  have hbefore : (frame.start inputs).before.get? last = none := by
    have hset : (frame.start inputs).before =
        OrderedMap.empty.set frame.function.entry (frame.entryState inputs) := rfl
    rw [hset, OrderedMap.get?_set_ne _ _ hne]
    rfl
  unfold Frame.loop
  rw [hqueue]
  dsimp only
  rw [hcall]
  dsimp only
  cases hfault : frame.fault? frame.function.entry call
      ((frame.start inputs).before.getD frame.function.entry .empty) with
  | some fault => exact Or.inr ⟨fault, rfl, Frame.isLocal_of_fault? hfault⟩
  | none =>
    -- the call queues the return, and the return queues nothing
    have hnext : (frame.visit
        { frame.start inputs with queue := [], visits := (frame.start inputs).visits + 1 }
        frame.function.entry call).queue = [last] := by
      unfold Frame.visit
      dsimp only
      rw [hpasses.succ, List.foldl_cons, List.foldl_nil]
      unfold Progress.flowInto
      dsimp only
      rw [hbefore]
      simp [Progress.enqueue]
    dsimp only
    generalize frame.visit _ _ _ = q at hnext ⊢
    have hpass : frame.fault? last back (q.before.getD last .empty) = none := by
      unfold Frame.fault?
      rw [hhands.kind]
    have hend : (frame.visit { q with queue := [], visits := q.visits + 1 } last back).queue = [] := by
      unfold Frame.visit
      rw [hhands.succ]
      rfl
    refine Or.inl ⟨frame.visit { q with queue := [], visits := q.visits + 1 } last back, ?_⟩
    unfold Frame.loop
    rw [hnext]
    dsimp only
    rw [hback]
    dsimp only
    rw [hpass]
    dsimp only
    unfold Frame.loop
    rw [hend]

/-- A function that forwards is analysed, unless the call cannot be made at all. -/
theorem analyze_cases (h : frame.function.Forwards g rules globals kept) {visits : Int}
    (hvisits : 0 < visits) (inputs : KeyMap TaintSet) :
    (∃ a, frame.analyze (.whole visits) inputs = .ok a) ∨
      ∃ fault, frame.analyze (.whole visits) inputs = .error fault ∧ fault.isLocal = false := by
  have hsize : 2 ≤ frame.function.nodes.size := by
    obtain ⟨last, call, back, hcall, hpasses, hback, hhands, -⟩ := h.body
    have hnodup : [last, frame.function.entry].Nodup := by
      simpa using ne_entry hcall hpasses hback hhands
    have hsub : [last, frame.function.entry] ⊆ frame.function.nodes.keys := by
      intro id hid
      rcases List.mem_pair.1 hid with rfl | rfl
      · exact Table.mem_keys_iff.2 ⟨back, hback⟩
      · exact Table.mem_keys_iff.2 ⟨call, hcall⟩
    have hlength := (List.subperm_of_subset hnodup hsub).length_le
    rw [Table.keys, List.length_map] at hlength
    exact hlength
  have hfuel : 2 ≤ (visits * (max 1 frame.function.nodes.size : Nat)).toNat := by
    have hmul : 1 * (2 : Int) ≤ visits * (max 1 frame.function.nodes.size : Nat) :=
      Int.mul_le_mul (by omega) (by omega) (by omega) (by omega)
    omega
  obtain ⟨fuel, hfuel⟩ := Nat.exists_eq_add_of_le' hfuel
  unfold Frame.analyze
  dsimp only
  rw [Frame.bound?_budget, hfuel, Option.getD_some]
  split
  · rcases h.loop_cases (frame.budget (.whole visits)) fuel inputs with
      ⟨p, hp⟩ | ⟨fault, hfault, hlocal⟩
    · rw [hp]
      exact Or.inl ⟨_, rfl⟩
    · rw [hfault]
      exact Or.inr ⟨fault, rfl, hlocal⟩
  · exact Or.inr ⟨_, rfl, rfl⟩

end Function.Forwards

end TaintFlow
