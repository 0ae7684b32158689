import TaintFlow.Flow.Analysis
import TaintFlow.Proofs.State

/-!
# Inputs of a function

Parameters, the receiver and the globals that a function mentions are its inputs; each has a marker
(`Function.Input`), and a marker belongs to one slot only (`Input.slot_eq`).  The state before the
entry carries what the inputs are given and nothing else (`carries_entryState_iff`), and with symbolic
inputs every input carries one label, its marker (`has_symbolicInputs_iff`).
-/

namespace TaintFlow

/-! ### Markers -/

theorem Text.afterChars?_eq_some_iff {beginning l rest : List Char} :
    afterChars? beginning l = some rest ↔ l = beginning ++ rest := by
  induction beginning generalizing l with
  | nil => simp [afterChars?]
  | cons b bs ih =>
    cases l with
    | nil => simp [afterChars?]
    | cons c cs =>
      rw [afterChars?, List.cons_append, List.cons.injEq]
      by_cases h : b = c
      · simp [h, ih]
      · simp [h, Ne.symm h]

theorem Text.afterChars?_append (beginning rest : List Char) :
    afterChars? beginning (beginning ++ rest) = some rest := afterChars?_eq_some_iff.2 rfl

theorem Text.after?_append (beginning rest : String) :
    after? beginning (beginning ++ rest) = some rest := by
  rw [after?, String.toList_append, afterChars?_append]
  exact congrArg some String.ofList_toList

@[simp] theorem globalOfMarker?_globalMarker (name : String) :
    globalOfMarker? (globalMarker name) = some name := Text.after?_append _ _

theorem globalOfMarker?_eq_some_iff {marker name : String} :
    globalOfMarker? marker = some name ↔ marker = globalMarker name := by
  constructor
  · intro h
    obtain ⟨rest, hrest, rfl⟩ := Option.map_eq_some_iff.1 h
    rw [← String.toList_inj, Text.afterChars?_eq_some_iff.1 hrest, globalMarker, String.toList_append]
    exact congrArg _ String.toList_ofList.symm
  · rintro rfl
    exact globalOfMarker?_globalMarker name

@[simp] theorem globalOfMarker?_paramMarker (index : Nat) :
    globalOfMarker? (paramMarker index) = none := by
  unfold globalOfMarker? paramMarker Text.after?
  rw [String.toList_append]
  rfl

@[simp] theorem paramOfMarker?_paramMarker (index : Nat) :
    paramOfMarker? (paramMarker index) = some index := by
  have hafter : Text.after? "param:" (paramMarker index) = some (toString index) :=
    Text.after?_append _ _
  have hall : ∀ c ∈ Nat.toDigits 10 index, c.isDigit = true := fun c hc =>
    Nat.isDigit_of_mem_toDigits (by decide) (by decide) hc
  have hfold : (Nat.toDigits 10 index).foldl (fun n c => 10 * n + (c.toNat - 48)) 0 = index :=
    Nat.ofDigitChars_ten_toDigits
  simpa [paramOfMarker?, hafter, hfold] using hall

@[simp] theorem after?_param_globalMarker (name : String) :
    Text.after? "param:" (globalMarker name) = none := by
  unfold globalMarker Text.after?
  rw [String.toList_append]
  rfl

@[simp] theorem paramOfMarker?_globalMarker (name : String) :
    paramOfMarker? (globalMarker name) = none := by
  simp [paramOfMarker?]

theorem paramMarker_injective {i j : Nat} (h : paramMarker i = paramMarker j) : i = j := by
  have := congrArg paramOfMarker? h
  simpa using this

theorem globalMarker_injective {a b : String} (h : globalMarker a = globalMarker b) : a = b := by
  have := congrArg globalOfMarker? h
  simpa using this

theorem globalMarker_ne_paramMarker (name : String) (index : Nat) :
    globalMarker name ≠ paramMarker index := by
  intro h
  have := congrArg globalOfMarker? h
  simp at this

theorem receiverMarker_ne_paramMarker (index : Nat) : receiverMarker ≠ paramMarker index := by
  intro h
  have hnone : paramOfMarker? receiverMarker = none := by decide
  rw [h, paramOfMarker?_paramMarker] at hnone
  cases hnone

theorem receiverMarker_ne_globalMarker (name : String) : receiverMarker ≠ globalMarker name := by
  intro h
  have hnone : globalOfMarker? receiverMarker = none := by decide
  rw [h, globalOfMarker?_globalMarker] at hnone
  cases hnone

theorem returnSlot_ne_paramMarker (index : Nat) : returnSlot ≠ paramMarker index := by
  intro h
  have hnone : paramOfMarker? returnSlot = none := by decide
  rw [h, paramOfMarker?_paramMarker] at hnone
  cases hnone

theorem returnSlot_ne_globalMarker (name : String) : returnSlot ≠ globalMarker name := by
  intro h
  have hnone : globalOfMarker? returnSlot = none := by decide
  rw [h, globalOfMarker?_globalMarker] at hnone
  cases hnone

/-! ### Inputs and their slots -/

theorem Document.eq_text_of_key? {d : Document} {value : String} (h : d.key? = some (.text value)) :
    d = .text value := by
  cases d with
  | text other => rw [Key.text.inj (Option.some.inj h)]
  | real other =>
    have h : Key.ofReal other = .text value := Option.some.inj h
    unfold Key.ofReal at h
    split at h
    · dsimp only at h
      split at h <;> cases h
    · cases h
  | _ => cases h

namespace Function

theorem mem_indexedParams_iff {f : Function} {index : Nat} {p : Param} :
    (index, p) ∈ f.indexedParams ↔ f.params[index]? = some p := mem_zip_range_iff

/-- A marker together with the slot of the input that it stands for. -/
inductive Input (f : Function) (globals : Names) : String → Slot → Prop
  | param {index : Nat} {p : Param} (h : f.params[index]? = some p) :
      f.Input globals (paramMarker index) (.text p.name)
  | receiver {x : Slot} (h : f.receiverSlot? = some x) : f.Input globals receiverMarker x
  | global {name : String} (h : name ∈ f.globalsIn globals) :
      f.Input globals (globalMarker name) (.text name)

def IsInput (f : Function) (globals : Names) (x : Slot) : Prop := ∃ m, f.Input globals m x

namespace Input

variable {f : Function} {globals : Names} {m : String} {x y : Slot}

theorem eq_of_globalMarker {name : String} (h : f.Input globals (globalMarker name) x) :
    x = .text name := by
  generalize hm : globalMarker name = m at h
  cases h with
  | @param i => exact absurd hm (globalMarker_ne_paramMarker name i)
  | receiver => exact absurd hm.symm (receiverMarker_ne_globalMarker name)
  | global => rw [globalMarker_injective hm]

theorem slot_eq (hx : f.Input globals m x) (hy : f.Input globals m y) : x = y := by
  cases hx with
  | @param i p hp =>
    generalize hm : paramMarker i = m at hy
    cases hy with
    | param hq =>
      rw [paramMarker_injective hm, hq] at hp
      cases hp
      rfl
    | receiver => exact absurd hm.symm (receiverMarker_ne_paramMarker i)
    | global => exact absurd hm.symm (globalMarker_ne_paramMarker _ i)
  | receiver hx =>
    generalize hm : receiverMarker = m at hy
    cases hy with
    | @param i => exact absurd hm (receiverMarker_ne_paramMarker i)
    | receiver hy => exact Option.some.inj (hx.symm.trans hy)
    | @global name => exact absurd hm (receiverMarker_ne_globalMarker name)
  | global => exact (eq_of_globalMarker hy).symm

theorem ne_returnSlot (h : f.Input globals m x) : m ≠ returnSlot := by
  cases h with
  | @param i => exact (returnSlot_ne_paramMarker i).symm
  | receiver => decide
  | @global name => exact (returnSlot_ne_globalMarker name).symm

end Input

theorem isInput_iff {f : Function} {globals : Names} {x : Slot} : f.IsInput globals x ↔
    ((∃ entry ∈ f.indexedParams, x = .text entry.2.name) ∨ f.receiverSlot? = some x) ∨
      ∃ name ∈ (f.globalsIn globals).toList, x = .text name := by
  constructor
  · rintro ⟨m, hm⟩
    cases hm with
    | param hp => exact Or.inl (Or.inl ⟨(_, _), mem_indexedParams_iff.2 hp, rfl⟩)
    | receiver hr => exact Or.inl (Or.inr hr)
    | global hname => exact Or.inr ⟨_, hname, rfl⟩
  · rintro ((⟨⟨i, p⟩, hmem, rfl⟩ | hr) | ⟨name, hname, rfl⟩)
    · exact ⟨_, .param (mem_indexedParams_iff.1 hmem)⟩
    · exact ⟨_, .receiver hr⟩
    · exact ⟨_, .global hname⟩

end Function

/-! ### The state before the entry -/

/-- The slots of `dom`, and no others, are defined and hold what the inputs give them. -/
def State.Loaded (inputs : KeyMap TaintSet) (dom : Slot → Prop) (s : State) : Prop :=
  ∀ x, (s.defs.contains x = true ↔ dom x) ∧
    ∀ i, s.Carries x i ↔ dom x ∧ (inputs.getD x ∅).has i = true

namespace State.Loaded

variable {inputs : KeyMap TaintSet} {dom : Slot → Prop} {s : State}

theorem empty (inputs : KeyMap TaintSet) : State.empty.Loaded inputs (fun _ => False) := by
  intro x
  refine ⟨?_, fun i => ?_⟩
  · simp [State.empty, OrderedMap.contains]
  · simp

theorem congr {other : Slot → Prop} (h : s.Loaded inputs dom) (he : ∀ x, dom x ↔ other x) :
    s.Loaded inputs other := by
  rw [← funext fun x => propext (he x)]
  exact h

theorem assign (h : s.Loaded inputs dom) (y : Slot) (d : String) :
    (s.assign y (inputs.getD y ∅) d).Loaded inputs (fun x => dom x ∨ x = y) := by
  intro x
  have hcontains : (s.assign y (inputs.getD y ∅) d).defs.contains x = true ↔
      s.defs.contains x = true ∨ x = y := by
    by_cases hx : x = y
    · simp [State.assign, OrderedMap.contains, hx]
    · simp [State.assign, OrderedMap.contains, hx, OrderedMap.get?_set]
  refine ⟨?_, fun i => ?_⟩
  · rw [hcontains, (h x).1]
  · rw [carries_assign]
    by_cases hx : x = y
    · simp [hx]
    · simp [hx, (h x).2 i]

theorem assignIfAbsent (h : s.Loaded inputs dom) (y : Slot) (d : String) :
    (if s.defs.contains y then s else s.assign y (inputs.getD y ∅) d).Loaded inputs
      (fun x => dom x ∨ x = y) := by
  split
  · next hc =>
    have hy : dom y := (h y).1.1 hc
    refine h.congr fun x => ⟨Or.inl, ?_⟩
    rintro (hx | rfl)
    · exact hx
    · exact hy
  · exact h.assign y d

theorem foldl {α : Type} (step : State → α → State) (slot : α → Slot)
    (hstep : ∀ s dom a, s.Loaded inputs dom → (step s a).Loaded inputs (fun x => dom x ∨ x = slot a))
    (l : List α) (h : s.Loaded inputs dom) :
    (l.foldl step s).Loaded inputs (fun x => dom x ∨ ∃ a ∈ l, x = slot a) := by
  induction l generalizing s dom with
  | nil => exact h.congr fun x => by simp
  | cons a rest ih =>
    refine (ih (hstep s dom a h)).congr fun x => ?_
    rw [List.exists_mem_cons_iff, or_assoc]

end State.Loaded

theorem Frame.loaded_params (frame : Frame) (inputs : KeyMap TaintSet) :
    (frame.function.indexedParams.foldl (fun (s : State) (i, p) =>
      s.assign (.text p.name) (inputs.getD (.text p.name) ∅) (frame.function.paramKey i))
        State.empty).Loaded inputs
      (fun x => ∃ entry ∈ frame.function.indexedParams, x = Key.text entry.2.name) := by
  refine (State.Loaded.foldl _ (fun entry : Nat × Param => .text entry.2.name)
    (fun s dom entry h => h.assign (.text entry.2.name) (frame.function.paramKey entry.1))
    frame.function.indexedParams (State.Loaded.empty inputs)).congr fun x => ?_
  rw [false_or]

theorem State.Loaded.receiver {s : State} {inputs : KeyMap TaintSet} {dom : Slot → Prop}
    (h : s.Loaded inputs dom) (f : Function) :
    (match f.receiverSlot? with
      | some receiver => s.assign receiver (inputs.getD receiver ∅) f.receiverKey
      | none => s).Loaded inputs (fun x => dom x ∨ f.receiverSlot? = some x) := by
  cases hr : f.receiverSlot? with
  | none => exact h.congr fun x => by simp
  | some receiver =>
    refine (h.assign receiver f.receiverKey).congr fun x => ?_
    simp [eq_comm]

theorem Frame.loaded_entryState (frame : Frame) (inputs : KeyMap TaintSet) :
    (frame.entryState inputs).Loaded inputs (frame.function.IsInput frame.globals) := by
  refine (State.Loaded.foldl
    (fun s name => if s.defs.contains (.text name) then s
      else s.assign (.text name) (inputs.getD (.text name) ∅) (globalKey name))
    Key.text (fun s dom name h => h.assignIfAbsent (.text name) (globalKey name))
    frame.globalsRead.toList
    ((frame.loaded_params inputs).receiver frame.function)).congr fun x => ?_
  exact Function.isInput_iff.symm

/-- **The state before the entry carries what the inputs are given, and nothing else.** -/
theorem Frame.carries_entryState_iff {frame : Frame} {inputs : KeyMap TaintSet} {x : Slot}
    {i : Identity} : (frame.entryState inputs).Carries x i ↔
      frame.function.IsInput frame.globals x ∧ (inputs.getD x ∅).has i = true :=
  (frame.loaded_entryState inputs x).2 i

/-! ### Symbolic inputs -/

def markerIdentity (marker : String) : Identity := ⟨∅, none, .singleton marker⟩

theorem markerIdentity_injective {m m' : String} (h : markerIdentity m = markerIdentity m') :
    m = m' := by
  have hsymbols : OrderedSet.singleton m = OrderedSet.singleton m' := congrArg Identity.symbols h
  have hmem : m ∈ OrderedSet.singleton m' := hsymbols ▸ OrderedSet.mem_singleton.2 rfl
  exact OrderedSet.mem_singleton.1 hmem

/-- A map gives just the slots of `dom` a taint, each the label of its marker. -/
def Function.Marked (f : Function) (globals : Names) (dom : Slot → Prop) (m : KeyMap TaintSet) :
    Prop :=
  (∀ x, dom x → ∃ taint, m.get? x = some taint) ∧
    ∀ x taint, m.get? x = some taint → dom x ∧
      ∃ marker key, f.Input globals marker x ∧ taint = .of (.symbolic marker key)

namespace Function.Marked

variable {f : Function} {globals : Names} {dom : Slot → Prop} {m : KeyMap TaintSet}

theorem set (h : f.Marked globals dom m) {marker : String} {y : Slot}
    (hinput : f.Input globals marker y) (key : Atom) :
    f.Marked globals (fun x => dom x ∨ x = y) (m.set y (.of (.symbolic marker key))) := by
  constructor
  · intro x hx
    rw [OrderedMap.get?_set]
    by_cases he : x = y
    · exact ⟨_, if_pos he⟩
    · rw [if_neg he]
      exact h.1 x (hx.resolve_right he)
  · intro x taint ht
    rw [OrderedMap.get?_set] at ht
    by_cases he : x = y
    · rw [if_pos he, Option.some.injEq] at ht
      exact ⟨Or.inr he, marker, key, he ▸ hinput, ht.symm⟩
    · rw [if_neg he] at ht
      exact ⟨Or.inl (h.2 x taint ht).1, (h.2 x taint ht).2⟩

theorem setIfAbsent (h : f.Marked globals dom m) {marker : String} {y : Slot}
    (hinput : f.Input globals marker y) (key : Atom) :
    f.Marked globals (fun x => dom x ∨ x = y) (m.setIfAbsent y (.of (.symbolic marker key))) := by
  cases hy : m.get? y with
  | none =>
    have heq : m.setIfAbsent y (.of (.symbolic marker key)) =
        m.set y (.of (.symbolic marker key)) := by
      simp [OrderedMap.setIfAbsent, OrderedMap.contains, hy]
    rw [heq]
    exact h.set hinput key
  | some taint =>
    have heq : m.setIfAbsent y (.of (.symbolic marker key)) = m := by
      simp [OrderedMap.setIfAbsent, OrderedMap.contains, hy]
    rw [heq]
    refine ⟨fun x hx => ?_, fun x t ht => ⟨Or.inl (h.2 x t ht).1, (h.2 x t ht).2⟩⟩
    rcases hx with hx | rfl
    · exact h.1 x hx
    · exact ⟨taint, hy⟩

theorem foldl {α : Type} (step : KeyMap TaintSet → α → KeyMap TaintSet) (slot : α → Slot)
    (l : List α) (hstep : ∀ m dom, ∀ a ∈ l, f.Marked globals dom m →
      f.Marked globals (fun x => dom x ∨ x = slot a) (step m a))
    (h : f.Marked globals dom m) :
    f.Marked globals (fun x => dom x ∨ ∃ a ∈ l, x = slot a) (l.foldl step m) := by
  induction l generalizing m dom with
  | nil => simpa using h
  | cons a rest ih =>
    have hrest := ih (fun m dom b hb => hstep m dom b (List.mem_cons_of_mem a hb))
      (hstep m dom a List.mem_cons_self h)
    simpa only [List.foldl_cons, List.exists_mem_cons_iff, or_assoc] using hrest

end Function.Marked

theorem Function.marked_params (f : Function) (globals : Names) :
    f.Marked globals (fun x => ∃ entry ∈ f.indexedParams, x = Key.text entry.2.name)
      (f.indexedParams.foldl (fun m (i, p) =>
        m.set (.text p.name) (.of (.symbolic (paramMarker i) (f.paramKey i)))) ∅) := by
  have hempty : f.Marked globals (fun _ => False) ∅ :=
    ⟨fun x hx => hx.elim, fun x taint ht => by cases ht⟩
  have hparams := hempty.foldl _ (fun entry : Nat × Param => .text entry.2.name) f.indexedParams
    (fun m dom entry hmem h => h.set (.param (mem_indexedParams_iff.1 hmem)) (f.paramKey entry.1))
  simpa only [false_or] using hparams

theorem Function.Marked.receiver {f : Function} {globals : Names} {dom : Slot → Prop}
    {m : KeyMap TaintSet} (h : f.Marked globals dom m) :
    f.Marked globals (fun x => dom x ∨ f.receiverSlot? = some x)
      (match f.receiverSlot? with
        | some receiver => m.set receiver (.of (.symbolic receiverMarker f.receiverKey))
        | none => m) := by
  cases hr : f.receiverSlot? with
  | none => simpa using h
  | some receiver => simpa [eq_comm] using h.set (.receiver hr) f.receiverKey

theorem Function.marked_symbolicInputs (f : Function) (globals : Names) :
    f.Marked globals (f.IsInput globals) (f.symbolicInputs globals) := by
  have hglobals := (f.marked_params globals).receiver.foldl
    (fun m name => m.setIfAbsent (.text name) (.of (.symbolic (globalMarker name) (globalKey name))))
    Key.text (f.globalsIn globals).toList
    (fun m dom name hmem h => h.setIfAbsent (.global hmem) (globalKey name))
  simp only [← isInput_iff] at hglobals
  exact hglobals

/-- The symbolic inputs mark a slot with a marker. -/
def Function.Marks (f : Function) (globals : Names) (m : String) (x : Slot) : Prop :=
  ((f.symbolicInputs globals).getD x ∅).has (markerIdentity m) = true

theorem Function.Marks.input {f : Function} {globals : Names} {m : String} {x : Slot}
    (h : f.Marks globals m x) : f.Input globals m x := by
  obtain ⟨taint, ht, hi⟩ := OrderedMap.has_getD_iff.1 h
  obtain ⟨-, marker, key, hinput, rfl⟩ := (f.marked_symbolicInputs globals).2 x taint ht
  rw [TaintSet.has_of] at hi
  rw [markerIdentity_injective hi]
  exact hinput

theorem Function.Marks.slot_eq {f : Function} {globals : Names} {m : String} {x y : Slot}
    (hx : f.Marks globals m x) (hy : f.Marks globals m y) : x = y := hx.input.slot_eq hy.input

theorem Function.isInput_iff_exists_marks {f : Function} {globals : Names} {x : Slot} :
    f.IsInput globals x ↔ ∃ m, f.Marks globals m x := by
  constructor
  · intro hx
    obtain ⟨taint, ht⟩ := (f.marked_symbolicInputs globals).1 x hx
    obtain ⟨-, marker, key, -, rfl⟩ := (f.marked_symbolicInputs globals).2 x taint ht
    exact ⟨marker, OrderedMap.has_getD_iff.2 ⟨_, ht, TaintSet.has_of.2 rfl⟩⟩
  · rintro ⟨m, hm⟩
    exact ⟨m, hm.input⟩

/-- **With symbolic inputs a slot carries nothing but the labels of its markers.** -/
theorem Function.has_symbolicInputs_iff {f : Function} {globals : Names} {x : Slot} {i : Identity} :
    ((f.symbolicInputs globals).getD x ∅).has i = true ↔
      ∃ m, i = markerIdentity m ∧ f.Marks globals m x := by
  constructor
  · intro h
    obtain ⟨taint, ht, hi⟩ := OrderedMap.has_getD_iff.1 h
    obtain ⟨-, marker, key, -, rfl⟩ := (f.marked_symbolicInputs globals).2 x taint ht
    have he : i = markerIdentity marker := TaintSet.has_of.1 hi
    subst he
    exact ⟨marker, rfl, h⟩
  · rintro ⟨m, rfl, hm⟩
    exact hm

end TaintFlow
