import TaintFlow.Flow.Transfer
import TaintFlow.Proofs.State

/-!
# How a node connects slots

What a node does to a state does not depend on the state: it moves the labels of some slots into
others, makes labels of its own, keeps or drops the definitions of a slot, and defines slots itself.
The wiring of a node says all of this without mentioning a state, and `describes_transfer` shows that
`Frame.transfer` is its wiring: a label stands in a slot after the node exactly when the node makes it
or moves it there.  A slot of a call that is written only if something arrives is the one place where
definitions depend on labels (`Wiring.wakes`).

Everything else about transfers follows from the wiring: they keep `State.Within`
(`Describes.mono`), and whatever they yield comes from single slots.
-/

namespace TaintFlow

/-- How a node connects the slots before it with the slots after it. -/
structure Wiring where
  /-- The labels of the first slot go into the second one. -/
  moves : Slot → Slot → Prop
  /-- The node puts a label of this identity into the slot. -/
  makes : Slot → Identity → Prop
  /-- The definitions that the slot had before still reach it. -/
  keeps : Slot → Prop
  /-- The node defines the slot, whatever the state. -/
  writes : Slot → Prop
  /-- The node defines the second slot if the first one carries any label. -/
  wakes : Slot → Slot → Prop

namespace Wiring

/-- The wiring says what a change of states by the node with the given key does. -/
structure Describes (w : Wiring) (key : String) (f : State → State) : Prop where
  carries_iff (s : State) (x : Slot) (i : Identity) :
    (f s).Carries x i ↔ w.makes x i ∨ ∃ y, w.moves y x ∧ s.Carries y i
  definedBy_iff (s : State) (x : Slot) (d : String) :
    (f s).DefinedBy x d ↔ (w.keeps x ∧ s.DefinedBy x d) ∨
      (d = key ∧ (w.writes x ∨ ∃ y, w.wakes y x ∧ ∃ i, s.Carries y i))

def Defines (w : Wiring) (x : Slot) : Prop := w.writes x ∨ ∃ y, w.wakes y x

/-- The second wiring does all that the first one does. -/
structure Below (w w' : Wiring) : Prop where
  moves : ∀ y x, w.moves y x → w'.moves y x
  makes : ∀ x i, w.makes x i → w'.makes x i
  keeps : ∀ x, w.keeps x → w'.keeps x
  writes : ∀ x, w.writes x → w'.writes x
  wakes : ∀ y x, w.wakes y x → w'.wakes y x

theorem Below.refl (w : Wiring) : w.Below w :=
  ⟨fun _ _ h => h, fun _ _ h => h, fun _ h => h, fun _ h => h, fun _ _ h => h⟩

theorem Describes.within {w w' : Wiring} {key : String} {f f' : State → State}
    (h : w.Describes key f) (h' : w'.Describes key f') (hbelow : w.Below w') {s t : State}
    (hst : s.Within t) : (f s).Within (f' t) := by
  constructor
  · intro x i hx
    rw [h.carries_iff] at hx
    rw [h'.carries_iff]
    rcases hx with hm | ⟨y, hy, hc⟩
    · exact Or.inl (hbelow.makes x i hm)
    · exact Or.inr ⟨y, hbelow.moves y x hy, hst.1 y i hc⟩
  · intro x d hx
    rw [h.definedBy_iff] at hx
    rw [h'.definedBy_iff]
    rcases hx with ⟨hk, hd⟩ | ⟨hd, hw | ⟨y, hy, i, hc⟩⟩
    · exact Or.inl ⟨hbelow.keeps x hk, hst.2 x d hd⟩
    · exact Or.inr ⟨hd, Or.inl (hbelow.writes x hw)⟩
    · exact Or.inr ⟨hd, Or.inr ⟨y, hbelow.wakes y x hy, i, hst.1 y i hc⟩⟩

theorem Describes.mono {w : Wiring} {key : String} {f : State → State} (h : w.Describes key f)
    {s t : State} (hst : s.Within t) : (f s).Within (f t) := h.within h (.refl w) hst

/-! ### Wirings of the kinds of nodes -/

def idle : Wiring where
  moves y x := y = x
  makes _ _ := False
  keeps _ := True
  writes _ := False
  wakes _ _ := False

/-- A slot is overwritten by what some slots carry, and by labels made on the spot. -/
def overwrite (target : Slot) (reads : List Slot) (made : Identity → Prop) : Wiring where
  moves y x := (x ≠ target ∧ y = x) ∨ (x = target ∧ y ∈ reads)
  makes x i := x = target ∧ made i
  keeps x := x ≠ target
  writes x := x = target
  wakes _ _ := False

def extend (target : Slot) (reads : List Slot) : Wiring where
  moves y x := y = x ∨ (x = target ∧ y ∈ reads)
  makes _ _ := False
  keeps _ := True
  writes x := x = target
  wakes _ _ := False

/-- A call that keeps its result, if it does, in a slot that is overwritten. -/
def result (target : Option Slot) (reads : List Slot) (made : Identity → Prop) : Wiring :=
  match target with
  | some slot => overwrite slot reads made
  | none => idle

theorem describes_idle (key : String) : idle.Describes key id where
  carries_iff s x i := by simp [idle]
  definedBy_iff s x d := by simp [idle]

theorem describes_overwrite {target : Slot} {reads : List Slot} {made : Identity → Prop}
    {key : String} {taint : State → TaintSet}
    (h : ∀ s i, (taint s).has i = true ↔ made i ∨ ∃ y ∈ reads, s.Carries y i) :
    (overwrite target reads made).Describes key (fun s => s.assign target (taint s) key) where
  carries_iff s x i := by
    rw [State.carries_assign]
    by_cases hx : x = target
    · simp [overwrite, hx, h]
    · simp [overwrite, hx]
  definedBy_iff s x d := by
    rw [State.definedBy_assign]
    by_cases hx : x = target <;> simp [overwrite, hx]

theorem describes_extend {target : Slot} {reads : List Slot} {key : String}
    {taint : State → TaintSet}
    (h : ∀ s i, (taint s).has i = true ↔ ∃ y ∈ reads, s.Carries y i) :
    (extend target reads).Describes key (fun s => s.weakAssign target (taint s) key) where
  carries_iff s x i := by
    rw [State.carries_weakAssign, h]
    simp only [extend, false_or]
    constructor
    · rintro (hs | ⟨hx, y, hy, hc⟩)
      · exact ⟨x, Or.inl rfl, hs⟩
      · exact ⟨y, Or.inr ⟨hx, hy⟩, hc⟩
    · rintro ⟨y, rfl | ⟨hx, hy⟩, hc⟩
      · exact Or.inl hc
      · exact Or.inr ⟨hx, y, hy, hc⟩
  definedBy_iff s x d := by
    rw [State.definedBy_weakAssign]
    simp [extend, and_comm]

theorem describes_result {n : Node} {reads : List Slot} {made : Identity → Prop} {key : String}
    {taint : State → TaintSet}
    (h : ∀ s i, (taint s).has i = true ↔ made i ∨ ∃ y ∈ reads, s.Carries y i) :
    (result n.targetSlot? reads made).Describes key (fun s => n.assignResult s (taint s) key) := by
  unfold Node.assignResult result
  cases n.targetSlot? with
  | none => exact describes_idle key
  | some target => exact describes_overwrite h

end Wiring

namespace Node

def passedSlots (n : Node) : List Slot := n.argSlots.filterMap id ++ n.receiverSlot?.toList

theorem has_inputTaint_iff {n : Node} {s : State} {i : Identity} :
    (n.inputTaint s).has i = true ↔ ∃ y ∈ n.passedSlots, s.Carries y i := by
  have hargs : (TaintSet.join (n.argTaint s)).has i = true ↔
      ∃ y ∈ n.argSlots.filterMap id, s.Carries y i := by
    rw [TaintSet.has_join, argTaint]
    constructor
    · rintro ⟨taint, ht, hi⟩
      obtain ⟨slot, hslot, rfl⟩ := List.mem_map.1 ht
      obtain ⟨y, rfl, hy⟩ := State.has_taintOf_iff.1 hi
      exact ⟨y, List.mem_filterMap.2 ⟨some y, hslot, rfl⟩, hy⟩
    · rintro ⟨y, hy, hc⟩
      obtain ⟨slot, hslot, rfl⟩ := List.mem_filterMap.1 hy
      exact ⟨s.taintOf (some y), List.mem_map.2 ⟨some y, hslot, rfl⟩, hc⟩
  unfold inputTaint passedSlots
  cases hr : n.receiverSlot? with
  | none => simpa using hargs
  | some slot =>
    simp only [TaintSet.has_union, hargs, Option.toList_some, List.mem_append, List.mem_singleton]
    constructor
    · rintro (⟨y, hy, hc⟩ | hc)
      · exact ⟨y, Or.inl hy, hc⟩
      · exact ⟨slot, Or.inr rfl, hc⟩
    · rintro ⟨y, hy | rfl, hc⟩
      · exact Or.inl ⟨y, hy, hc⟩
      · exact Or.inr hc

theorem has_operandTaint_iff {n : Node} {s : State} {i : Identity} :
    (n.operandTaint s).has i = true ↔ ∃ y ∈ n.operandSlots, s.Carries y i := by
  rw [operandTaint, TaintSet.has_join]
  simp [State.Carries]

def passedReceiver? (n : Node) : Option Slot :=
  if n.receiver.isNull then none else n.receiver.key?

theorem receiverTaint_eq (n : Node) (s : State) :
    n.receiverTaint s = s.taintOf n.passedReceiver? := by
  unfold receiverTaint passedReceiver?
  split <;> rfl

/-- The slot whose taint a call passes to an input of the called function. -/
def inputSlot? (n : Node) (input : String) : Option Slot :=
  match globalOfMarker? input with
  | some name => some (.text name)
  | none =>
    let passed := ((List.range n.argSlots.length).map paramMarker).zip n.argSlots
    ((passed ++ [(receiverMarker, n.passedReceiver?)]).lookup input).join

theorem passedTaint_eq (n : Node) (s : State) (input : String) :
    n.passedTaint s input = s.taintOf (n.inputSlot? input) := by
  unfold passedTaint inputSlot?
  cases globalOfMarker? input with
  | some name => rfl
  | none =>
    have hzip : ((List.range (n.argTaint s).length).map paramMarker).zip (n.argTaint s) =
        (((List.range n.argSlots.length).map paramMarker).zip n.argSlots).map
          (fun p => (p.1, s.taintOf p.2)) := by
      rw [argTaint, List.length_map, List.zip_map_right]
      rfl
    have hlast : [(receiverMarker, n.receiverTaint s)] =
        [(receiverMarker, n.passedReceiver?)].map (fun p => (p.1, s.taintOf p.2)) := by
      rw [receiverTaint_eq]
      rfl
    simp only [hzip, hlast, ← List.map_append, lookup_map_snd]
    cases (List.lookup input _) with
    | none => rfl
    | some slot => cases slot <;> rfl

theorem has_passedTaint_iff {n : Node} {s : State} {input : String} {i : Identity} :
    (n.passedTaint s input).has i = true ↔ ∃ y, n.inputSlot? input = some y ∧ s.Carries y i := by
  rw [passedTaint_eq, State.has_taintOf_iff]

end Node

/-! ### Calls with a known effect -/

namespace Effect

/-- A flow of the effect leads from what the call passes in a slot to an output. -/
def Feeds (e : Effect) (n : Node) (y : Slot) (output : Atom) : Prop :=
  ∃ t ∈ e.transfers, t.output = output ∧ ∃ input, t.input = .text input ∧
    n.inputSlot? input = some y

/-- The called function itself makes a label for an output. -/
def Makes (e : Effect) (output : Atom) (i : Identity) : Prop :=
  ∃ name, output = .text name ∧ (e.generated.getD name ∅).has i = true

/-- A label is delivered to an output in a given state. -/
def Delivers (e : Effect) (n : Node) (s : State) (output : Atom) (i : Identity) : Prop :=
  e.Makes output i ∨ ∃ y, e.Feeds n y output ∧ s.Carries y i

theorem has_carried_iff {n : Node} {s : State} {key : String} {t : Transfer} {i : Identity} :
    (carried n s key t).has i = true ↔
      ∃ input, t.input = .text input ∧ ∃ y, n.inputSlot? input = some y ∧ s.Carries y i := by
  unfold carried
  split
  · next input h =>
    rw [TaintSet.has_extend, Node.has_passedTaint_iff, h]
    simp
  · next h =>
    refine iff_of_false (by simp) ?_
    rintro ⟨input, hinput, -⟩
    exact h input hinput

theorem exists_mem_delivered_iff {e : Effect} {n : Node} {s : State} (key : String) {output : Atom}
    {i : Identity} : (∃ taint, (output, taint) ∈ e.delivered n s key ∧ taint.has i = true) ↔
      e.Delivers n s output i := by
  simp only [delivered, List.mem_filter, List.mem_append, List.mem_map, Prod.mk.injEq]
  constructor
  · rintro ⟨taint, ⟨⟨t, ht, hout, rfl⟩ | ⟨⟨name, made⟩, hmade, hout, rfl⟩, -⟩, hi⟩
    · obtain ⟨input, hinput, y, hy, hc⟩ := has_carried_iff.1 hi
      exact Or.inr ⟨y, ⟨t, ht, hout, input, hinput, hy⟩, hc⟩
    · rw [TaintSet.has_extend] at hi
      refine Or.inl ⟨name, hout.symm, ?_⟩
      rw [OrderedMap.has_getD_iff]
      exact ⟨made, OrderedMap.mem_entries_iff.1 hmade, hi⟩
  · -- what is delivered carries a label, so it is not sifted out
    have hne : ∀ {taint : TaintSet}, taint.has i = true → (!taint.isEmpty) = true := by
      intro taint hi
      rw [Bool.not_eq_true']
      exact TaintSet.isEmpty_eq_false_iff.2 ⟨i, hi⟩
    rintro (⟨name, rfl, hi⟩ | ⟨y, ⟨t, ht, hout, input, hinput, hy⟩, hc⟩)
    · obtain ⟨made, hmade, hi⟩ := OrderedMap.has_getD_iff.1 hi
      have hi' : (made.extend key false).has i = true := by rw [TaintSet.has_extend]; exact hi
      exact ⟨made.extend key false,
        ⟨Or.inr ⟨(name, made), OrderedMap.mem_entries_iff.2 hmade, rfl, rfl⟩, hne hi'⟩, hi'⟩
    · have hi : (carried n s key t).has i = true := has_carried_iff.2 ⟨input, hinput, y, hy, hc⟩
      exact ⟨carried n s key t, ⟨Or.inl ⟨t, ht, hout, rfl⟩, hne hi⟩, hi⟩

/-- Everything that is delivered to an output, joined. -/
def deliveredTo (e : Effect) (n : Node) (s : State) (key : String) (output : Atom) : TaintSet :=
  .join (((e.delivered n s key).filter (fun d => d.1 = output)).map Prod.snd)

theorem has_deliveredTo_iff {e : Effect} {n : Node} {s : State} {key : String} {output : Atom}
    {i : Identity} : (e.deliveredTo n s key output).has i = true ↔ e.Delivers n s output i := by
  rw [deliveredTo, TaintSet.has_join, ← exists_mem_delivered_iff key]
  constructor
  · rintro ⟨taint, htaint, hi⟩
    obtain ⟨⟨o, t⟩, hmem, rfl⟩ := List.mem_map.1 htaint
    obtain ⟨hmem, ho⟩ := List.mem_filter.1 hmem
    have ho : o = output := by simpa using ho
    exact ⟨t, ho ▸ hmem, hi⟩
  · rintro ⟨taint, hmem, hi⟩
    exact ⟨taint, List.mem_map.2 ⟨(output, taint), List.mem_filter.2 ⟨hmem, by simp⟩, rfl⟩, hi⟩

theorem outputs_eq (e : Effect) (n : Node) (s : State) (key : String) :
    e.outputs n s key = ((e.delivered n s key).map Prod.fst).eraseDups.map
      (fun output => (output, e.deliveredTo n s key output)) := rfl

theorem mem_delivered_fst_iff {e : Effect} {n : Node} {s : State} (key : String) {output : Atom} :
    output ∈ (e.delivered n s key).map Prod.fst ↔ ∃ i, e.Delivers n s output i := by
  rw [List.mem_map]
  constructor
  · rintro ⟨⟨o, taint⟩, hmem, rfl⟩
    have hne : (!taint.isEmpty) = true := (List.mem_filter.1 hmem).2
    rw [Bool.not_eq_true'] at hne
    obtain ⟨i, hi⟩ := TaintSet.isEmpty_eq_false_iff.1 hne
    exact ⟨i, (exists_mem_delivered_iff key).1 ⟨taint, hmem, hi⟩⟩
  · rintro ⟨i, hi⟩
    obtain ⟨taint, hmem, -⟩ := (exists_mem_delivered_iff key).2 hi
    exact ⟨(output, taint), hmem, rfl⟩

theorem mem_outputs_iff {e : Effect} {n : Node} {s : State} {key : String} {output : Atom}
    {taint : TaintSet} : (output, taint) ∈ e.outputs n s key ↔
      (∃ i, e.Delivers n s output i) ∧ taint = e.deliveredTo n s key output := by
  rw [outputs_eq, List.mem_map, ← mem_delivered_fst_iff key]
  simp only [List.mem_eraseDups, Prod.mk.injEq]
  constructor
  · rintro ⟨o, ho, rfl, rfl⟩
    exact ⟨ho, rfl⟩
  · rintro ⟨ho, rfl⟩
    exact ⟨output, ho, rfl, rfl⟩

theorem has_lookup_outputs_iff {e : Effect} {n : Node} {s : State} {key : String} {output : Atom}
    {i : Identity} : (((e.outputs n s key).lookup output).getD ∅).has i = true ↔
      e.Delivers n s output i := by
  rw [outputs_eq, lookup_map_pair]
  by_cases h : output ∈ ((e.delivered n s key).map Prod.fst).eraseDups
  · rw [if_pos h, Option.getD_some, has_deliveredTo_iff]
  · rw [if_neg h]
    refine iff_of_false (by simp) fun hi => h ?_
    rw [List.mem_eraseDups, mem_delivered_fst_iff key]
    exact ⟨i, hi⟩

/-- The slot in which an output arrives: the result in the target, any other where it is written. -/
def Lands (n : Node) (output : Atom) (x : Slot) : Prop :=
  (output = .text returnSlot ∧ n.targetSlot? = some x) ∨ outputSlot? n output = some x

def NamesGlobal (globals : Names) (output : String) (x : Slot) : Prop :=
  ∃ name, globalOfMarker? output = some name ∧ name ∈ globals ∧ x = .text name

/-- The wiring of a call with a known effect. -/
def wiring (e : Effect) (globals : Names) (n : Node) : Wiring where
  moves y x := (n.targetSlot? ≠ some x ∧ y = x) ∨ ∃ output, Lands n output x ∧ e.Feeds n y output
  makes x i := ∃ output, Lands n output x ∧ e.Makes output i
  keeps x := n.targetSlot? ≠ some x
  writes x := n.targetSlot? = some x ∨
    (∃ output, outputSlot? n output = some x ∧ ∃ i, e.Makes output i) ∨
    ∃ output ∈ e.exitDefs.keys, NamesGlobal globals output x
  wakes y x := ∃ output, outputSlot? n output = some x ∧ e.Feeds n y output

theorem carries_assignResult {n : Node} {s : State} {taint : TaintSet} {key : String} {x : Slot}
    {i : Identity} : (n.assignResult s taint key).Carries x i ↔
      if n.targetSlot? = some x then taint.has i = true else s.Carries x i := by
  unfold Node.assignResult
  cases h : n.targetSlot? with
  | none => simp
  | some target =>
    rw [State.carries_assign]
    by_cases hx : x = target
    · simp [hx]
    · simp [hx, Ne.symm hx]

theorem definedBy_assignResult {n : Node} {s : State} {taint : TaintSet} {key d : String}
    {x : Slot} : (n.assignResult s taint key).DefinedBy x d ↔
      if n.targetSlot? = some x then d = key else s.DefinedBy x d := by
  unfold Node.assignResult
  cases h : n.targetSlot? with
  | none => simp
  | some target =>
    rw [State.definedBy_assign]
    by_cases hx : x = target
    · simp [hx]
    · simp [hx, Ne.symm hx]

/-- Adds what arrived at an output to the slot it is written to. -/
def settle (n : Node) (key : String) (s : State) (arrived : Atom × TaintSet) : State :=
  match outputSlot? n arrived.1 with
  | some slot => s.weakAssign slot arrived.2 key
  | none => s

/-- Adds the call as a definition of a global that the called function may write. -/
def announce (globals : Names) (key : String) (s : State) (output : String) : State :=
  match globalOfMarker? output with
  | some name => if name ∈ globals then s.addDefinition (.text name) key else s
  | none => s

theorem apply_eq (e : Effect) (globals : Names) (n : Node) (s : State) (key : String) :
    e.apply globals n s key = e.exitDefs.keys.foldl (announce globals key)
      ((e.outputs n s key).foldl (settle n key)
        (n.assignResult s (((e.outputs n s key).lookup (.text returnSlot)).getD ∅) key)) := rfl

theorem carries_foldl_settle {n : Node} {key : String} {arrived : List (Atom × TaintSet)} {s : State}
    {x : Slot} {i : Identity} : (arrived.foldl (settle n key) s).Carries x i ↔
      s.Carries x i ∨ ∃ a ∈ arrived, outputSlot? n a.1 = some x ∧ a.2.has i = true := by
  induction arrived generalizing s with
  | nil => simp
  | cons a rest ih =>
    have hstep : (settle n key s a).Carries x i ↔
        s.Carries x i ∨ (outputSlot? n a.1 = some x ∧ a.2.has i = true) := by
      unfold settle
      cases outputSlot? n a.1 with
      | none => simp
      | some slot => rw [State.carries_weakAssign, Option.some.injEq, eq_comm (a := x)]
    rw [List.foldl_cons, ih, hstep, List.exists_mem_cons_iff, or_assoc]

theorem definedBy_foldl_settle {n : Node} {key : String} {arrived : List (Atom × TaintSet)}
    {s : State} {x : Slot} {d : String} : (arrived.foldl (settle n key) s).DefinedBy x d ↔
      s.DefinedBy x d ∨ (d = key ∧ ∃ a ∈ arrived, outputSlot? n a.1 = some x) := by
  induction arrived generalizing s with
  | nil => simp
  | cons a rest ih =>
    have hstep : (settle n key s a).DefinedBy x d ↔
        s.DefinedBy x d ∨ (d = key ∧ outputSlot? n a.1 = some x) := by
      unfold settle
      cases outputSlot? n a.1 with
      | none => simp
      | some slot =>
        rw [State.definedBy_weakAssign, Option.some.injEq, eq_comm (a := x), and_comm (a := d = key)]
    rw [List.foldl_cons, ih, hstep, List.exists_mem_cons_iff, or_assoc, ← and_or_left]

theorem carries_foldl_announce {globals : Names} {key : String} {outputs : List String} {s : State}
    {x : Slot} {i : Identity} : (outputs.foldl (announce globals key) s).Carries x i ↔
      s.Carries x i := by
  induction outputs generalizing s with
  | nil => rfl
  | cons output rest ih =>
    rw [List.foldl_cons, ih]
    unfold announce
    split
    · split
      · exact State.carries_addDefinition
      · rfl
    · rfl

theorem definedBy_foldl_announce {globals : Names} {key : String} {outputs : List String} {s : State}
    {x : Slot} {d : String} : (outputs.foldl (announce globals key) s).DefinedBy x d ↔
      s.DefinedBy x d ∨ (d = key ∧ ∃ output ∈ outputs, NamesGlobal globals output x) := by
  induction outputs generalizing s with
  | nil => simp
  | cons output rest ih =>
    have hstep : (announce globals key s output).DefinedBy x d ↔
        s.DefinedBy x d ∨ (d = key ∧ NamesGlobal globals output x) := by
      unfold announce NamesGlobal
      cases globalOfMarker? output with
      | none => simp
      | some name =>
        by_cases hname : name ∈ globals
        · simp [hname, State.definedBy_addDefinition, and_comm]
        · simp [hname]
    rw [List.foldl_cons, ih, hstep, List.exists_mem_cons_iff, or_assoc, ← and_or_left]

theorem carries_apply_iff {e : Effect} {globals : Names} {n : Node} {s : State} {key : String}
    {x : Slot} {i : Identity} : (e.apply globals n s key).Carries x i ↔
      (n.targetSlot? ≠ some x ∧ s.Carries x i) ∨
        ∃ output, Lands n output x ∧ e.Delivers n s output i := by
  have harrived : (∃ a ∈ e.outputs n s key, outputSlot? n a.1 = some x ∧ a.2.has i = true) ↔
      ∃ output, outputSlot? n output = some x ∧ e.Delivers n s output i := by
    constructor
    · rintro ⟨⟨output, taint⟩, hmem, hslot, hi⟩
      obtain ⟨-, rfl⟩ := mem_outputs_iff.1 hmem
      exact ⟨output, hslot, has_deliveredTo_iff.1 hi⟩
    · rintro ⟨output, hslot, hi⟩
      exact ⟨(output, e.deliveredTo n s key output), mem_outputs_iff.2 ⟨⟨i, hi⟩, rfl⟩, hslot,
        has_deliveredTo_iff.2 hi⟩
  rw [apply_eq, carries_foldl_announce, carries_foldl_settle, harrived, carries_assignResult,
    has_lookup_outputs_iff]
  by_cases ht : n.targetSlot? = some x
  · simp only [ht, ne_eq, not_true_eq_false, false_and, false_or]
    constructor
    · rintro (hi | ⟨output, hslot, hi⟩)
      · exact ⟨.text returnSlot, Or.inl ⟨rfl, ht⟩, hi⟩
      · exact ⟨output, Or.inr hslot, hi⟩
    · rintro ⟨output, ⟨rfl, -⟩ | hslot, hi⟩
      · exact Or.inl hi
      · exact Or.inr ⟨output, hslot, hi⟩
  · simp only [ne_eq, ht, not_false_eq_true, true_and]
    refine or_congr_right ⟨?_, ?_⟩
    · rintro ⟨output, hslot, hi⟩
      exact ⟨output, Or.inr hslot, hi⟩
    · rintro ⟨output, ⟨-, htarget⟩ | hslot, hi⟩
      · exact absurd htarget ht
      · exact ⟨output, hslot, hi⟩

theorem definedBy_apply_iff {e : Effect} {globals : Names} {n : Node} {s : State} {key : String}
    {x : Slot} {d : String} : (e.apply globals n s key).DefinedBy x d ↔
      (n.targetSlot? ≠ some x ∧ s.DefinedBy x d) ∨ (d = key ∧ (n.targetSlot? = some x ∨
        (∃ output, outputSlot? n output = some x ∧ ∃ i, e.Delivers n s output i) ∨
        ∃ output ∈ e.exitDefs.keys, NamesGlobal globals output x)) := by
  have harrived : (∃ a ∈ e.outputs n s key, outputSlot? n a.1 = some x) ↔
      ∃ output, outputSlot? n output = some x ∧ ∃ i, e.Delivers n s output i := by
    constructor
    · rintro ⟨⟨output, taint⟩, hmem, hslot⟩
      exact ⟨output, hslot, (mem_outputs_iff.1 hmem).1⟩
    · rintro ⟨output, hslot, hi⟩
      exact ⟨(output, e.deliveredTo n s key output), mem_outputs_iff.2 ⟨hi, rfl⟩, hslot⟩
  rw [apply_eq, definedBy_foldl_announce, definedBy_foldl_settle, harrived, definedBy_assignResult,
    or_assoc, ← and_or_left]
  by_cases ht : n.targetSlot? = some x
  · simp only [ht, ne_eq, not_true_eq_false, false_and, false_or, true_or, and_true]
    exact ⟨fun h => h.elim id And.left, Or.inl⟩
  · simp [ht]

theorem describes_apply (e : Effect) (globals : Names) (n : Node) (key : String) :
    (e.wiring globals n).Describes key (fun s => e.apply globals n s key) where
  carries_iff s x i := by
    rw [carries_apply_iff]
    simp only [wiring, Delivers]
    constructor
    · rintro (⟨ht, hc⟩ | ⟨output, hl, hm | ⟨y, hf, hc⟩⟩)
      · exact Or.inr ⟨x, Or.inl ⟨ht, rfl⟩, hc⟩
      · exact Or.inl ⟨output, hl, hm⟩
      · exact Or.inr ⟨y, Or.inr ⟨output, hl, hf⟩, hc⟩
    · rintro (⟨output, hl, hm⟩ | ⟨y, ⟨ht, rfl⟩ | ⟨output, hl, hf⟩, hc⟩)
      · exact Or.inr ⟨output, hl, Or.inl hm⟩
      · exact Or.inl ⟨ht, hc⟩
      · exact Or.inr ⟨output, hl, Or.inr ⟨y, hf, hc⟩⟩
  definedBy_iff s x d := by
    rw [definedBy_apply_iff]
    refine or_congr_right (and_congr_right fun _ => ?_)
    simp only [wiring, Delivers]
    constructor
    · rintro (ht | ⟨output, hslot, i, hm | ⟨y, hf, hc⟩⟩ | hg)
      · exact Or.inl (Or.inl ht)
      · exact Or.inl (Or.inr (Or.inl ⟨output, hslot, i, hm⟩))
      · exact Or.inr ⟨y, ⟨output, hslot, hf⟩, i, hc⟩
      · exact Or.inl (Or.inr (Or.inr hg))
    · rintro ((ht | ⟨output, hslot, i, hm⟩ | hg) | ⟨y, ⟨output, hslot, hf⟩, i, hc⟩)
      · exact Or.inl ht
      · exact Or.inr (Or.inl ⟨output, hslot, i, Or.inl hm⟩)
      · exact Or.inr (Or.inr hg)
      · exact Or.inr (Or.inl ⟨output, hslot, i, Or.inr ⟨y, hf, hc⟩⟩)

end Effect

/-! ### Nodes -/

namespace Frame

def callWiring (frame : Frame) (n : Node) : Wiring :=
  match frame.role n with
  | .source rule => .result n.targetSlot? [] (fun i => i = ⟨.singleton rule.origin, rule.context, ∅⟩)
  | .sanitizer => .result n.targetSlot? n.passedSlots (fun _ => False)
  | .resolved _ effect => effect.wiring frame.globals n
  | .degraded => .result n.targetSlot? n.passedSlots
      (fun i => i = ⟨.singleton .unknownExternal, none, ∅⟩)
  | .unresolved => .result n.targetSlot? n.passedSlots (fun _ => False)

def wiring (frame : Frame) (n : Node) : Wiring :=
  match n.kind with
  | .assign =>
    match n.target.key? with
    | some target => .overwrite target n.operandSlots (fun _ => False)
    | none => .idle
  | .ret => .extend (.text returnSlot) n.operandSlots
  | .call => frame.callWiring n
  | .branch | .nop => .idle

theorem describes_transferCall (frame : Frame) (key : String) (n : Node) :
    (frame.callWiring n).Describes key (frame.transferCall key n) := by
  unfold callWiring transferCall
  cases frame.role n with
  | source rule =>
    refine Wiring.describes_result fun s i => ?_
    simp [Label.source, Label.identity]
  | sanitizer =>
    refine Wiring.describes_result fun s i => ?_
    rw [TaintSet.has_extend, Node.has_inputTaint_iff, false_or]
  | resolved callee effect => exact effect.describes_apply frame.globals n key
  | degraded =>
    refine Wiring.describes_result fun s i => ?_
    rw [TaintSet.has_add, TaintSet.has_markUnknown, Node.has_inputTaint_iff, eq_comm]
    rfl
  | unresolved =>
    refine Wiring.describes_result fun s i => ?_
    rw [TaintSet.has_markUnknown, Node.has_inputTaint_iff, false_or]

/-- **A transfer is its wiring**, at every node. -/
theorem describes_transfer (frame : Frame) (id : String) (n : Node) :
    (frame.wiring n).Describes (frame.function.key id) (frame.transfer id n) := by
  unfold wiring transfer
  cases n.kind with
  | assign =>
    cases n.target.key? with
    | none => exact Wiring.describes_idle _
    | some target =>
      refine Wiring.describes_overwrite fun s i => ?_
      rw [TaintSet.has_extend, Node.has_operandTaint_iff, false_or]
  | ret =>
    refine Wiring.describes_extend fun s i => ?_
    rw [TaintSet.has_extend, Node.has_operandTaint_iff]
  | call => exact frame.describes_transferCall _ n
  | branch => exact Wiring.describes_idle _
  | nop => exact Wiring.describes_idle _

end Frame

end TaintFlow
