import TaintFlow.Proofs.Concrete.Passing
import TaintFlow.Proofs.Flow.Callees
import TaintFlow.Proofs.Flow.Exact

/-!
# Globals that no node writes

A function spares a global if no node has it for a target and no call passes it as an argument.  A node keeps
all definitions of such a global.  It defines the global itself only if it calls a function that outputs it,
or returns, where the global is called like the result (`definedBy_of_transfer`).

So the definitions that reach the end are those from before the entry, with those of the returns.  If the
global is also the name of a parameter or of the receiver, the definition from before the entry is that of
the parameter or the receiver, and not the one that stands for the global.  Then the function counts as
writing the global, although none of its nodes does (`writes_of_redefines`, `redefines_of_writes`).
-/

namespace TaintFlow

/-- The effect has a flow into the global, makes a label for it or defines it. -/
def Effect.Outputs (e : Effect) (name : String) : Prop :=
  (∃ t ∈ e.transfers, t.output = .text (globalMarker name)) ∨
    (∃ taint, e.generated.get? (globalMarker name) = some taint) ∨
      ∃ defs, e.exitDefs.get? (globalMarker name) = some defs

theorem Effect.not_outputs_pending (name : String) : ¬ Effect.pending.Outputs name := by
  rintro (⟨t, ht, -⟩ | ⟨taint, htaint⟩ | ⟨defs, hdefs⟩)
  · exact OrderedSet.not_mem_empty t ht
  · cases htaint
  · cases hdefs

namespace Function

/-- No node of the function has the global for a target, and no call passes it as an argument. -/
structure Spares (f : Function) (name : String) : Prop where
  target : ∀ id n, f.node? id = some n → n.target ≠ .text name
  args : ∀ id n, f.node? id = some n → n.kind = .call → some name ∉ n.args

/-- The definition that a slot has before the entry as the receiver or as a parameter.  The receiver comes
first, and of several parameters with one name the last one. -/
def entryKey? (f : Function) (x : Slot) : Option String :=
  if f.receiverSlot? = some x then some f.receiverKey
  else (f.indexedParams.reverse.find? (fun entry => .text entry.2.name = x)).map
    (fun entry => f.paramKey entry.1)

/-- A parameter or the receiver hides the global at the entry. -/
def Shadows (f : Function) (name : String) : Prop :=
  ∃ d, f.entryKey? (.text name) = some d ∧ d ≠ globalKey name

def Ends (f : Function) : Prop :=
  ∃ id n, f.Reaches id ∧ f.node? id = some n ∧ (n.kind = .ret ∨ n.succ = [])

/-- The definition is that of a return that is reached, and the slot is that of the result. -/
def DefinedByReturn (f : Function) (name d : String) : Prop :=
  name = returnSlot ∧ ∃ id n, f.Reaches id ∧ f.node? id = some n ∧ n.kind = .ret ∧ d = f.key id

/-- The function mentions the global and has a definition of its own for it at the end, without a node that
writes the global or a call that does: a parameter or the receiver is called like it, or the result is. -/
def Redefines (f : Function) (globals : Names) (name : String) : Prop :=
  name ∈ f.globalsIn globals ∧
    ((f.Shadows name ∧ f.Ends) ∨ ∃ d, f.DefinedByReturn name d ∧ d ≠ globalKey name)

theorem entryKey?_eq_none_iff {f : Function} {x : Slot} : f.entryKey? x = none ↔
    ¬ ((∃ entry ∈ f.indexedParams, x = .text entry.2.name) ∨ f.receiverSlot? = some x) := by
  unfold entryKey?
  by_cases hx : f.receiverSlot? = some x
  · simp [hx]
  · rw [if_neg hx, Option.map_eq_none_iff, List.find?_eq_none]
    simp [hx, eq_comm]

/-- **A global that has a name of its own is not redefined.** -/
theorem not_redefines_of_not_isPassed {f : Function} {globals : Names} {name : String}
    (hpassed : ¬ f.IsPassed (.text name)) (hresult : name ≠ returnSlot) : ¬ f.Redefines globals name := by
  rintro ⟨-, ⟨⟨d, hd, -⟩, -⟩ | ⟨d, ⟨he, -⟩, -⟩⟩
  · have hnone : f.entryKey? (.text name) = none := by
      refine entryKey?_eq_none_iff.2 fun h => hpassed (h.imp_left ?_)
      rintro ⟨⟨index, param⟩, hparam, he⟩
      exact ⟨param, List.mem_of_getElem? (mem_indexedParams_iff.1 hparam), he⟩
    rw [hnone] at hd
    cases hd
  · exact hresult he

end Function

/-! ### Before the entry -/

namespace Frame

variable {frame : Frame} {inputs : KeyMap TaintSet} {x : Slot} {d : String}

theorem definedBy_params (f : Function) (inputs : KeyMap TaintSet) (params : List (Nat × Param)) :
    (params.foldl (fun (s : State) (i, p) =>
      s.assign (.text p.name) (inputs.getD (.text p.name) ∅) (f.paramKey i)) State.empty).DefinedBy x d ↔
      (params.reverse.find? (fun entry => .text entry.2.name = x)).map (fun entry => f.paramKey entry.1) =
        some d := by
  induction params using List.reverseRecOn with
  | nil => simp
  | append_singleton params entry ih =>
    rw [List.foldl_append, List.foldl_cons, List.foldl_nil, State.definedBy_assign, ih, List.reverse_append,
      List.reverse_singleton, List.singleton_append, List.find?_cons]
    by_cases he : x = .text entry.2.name
    · simp [he, eq_comm]
    · simp [he, Ne.symm he]

theorem definedBy_globals (inputs : KeyMap TaintSet) (names : List String) (s : State) :
    (names.foldl (fun s name => if s.defs.contains (.text name) then s
      else s.assign (.text name) (inputs.getD (.text name) ∅) (globalKey name)) s).DefinedBy x d ↔
      s.DefinedBy x d ∨
        (s.defs.contains x = false ∧ ∃ name ∈ names, x = .text name ∧ d = globalKey name) := by
  induction names generalizing s with
  | nil => simp
  | cons name rest ih =>
    rw [List.foldl_cons, ih, List.exists_mem_cons_iff]
    by_cases hdefined : s.defs.contains (.text name) = true
    · rw [if_pos hdefined]
      refine or_congr_right (and_congr_right fun hnone => (or_iff_right ?_).symm)
      rintro ⟨rfl, -⟩
      rw [hdefined] at hnone
      cases hnone
    · rw [if_neg hdefined, State.definedBy_assign]
      have hcontains : (s.assign (.text name) (inputs.getD (.text name) ∅) (globalKey name)).defs.contains x =
          (decide (x = .text name) || s.defs.contains x) := by
        simp only [State.assign, OrderedMap.contains, OrderedMap.get?_set]
        by_cases hx : x = .text name <;> simp [hx]
      rw [hcontains]
      by_cases hx : x = .text name
      · subst hx
        have hnot : ¬ s.DefinedBy (.text name) d := by
          intro hd
          obtain ⟨defs, hdefs, -⟩ := OrderedMap.mem_getD_iff.1 hd
          rw [OrderedMap.contains, hdefs] at hdefined
          exact hdefined rfl
        simp only [if_true, decide_true, Bool.true_or, Bool.true_eq_false, false_and, or_false, hnot,
          false_or, Bool.eq_false_iff.2 hdefined, true_and]
        refine (or_iff_left_of_imp ?_).symm
        rintro ⟨other, -, hsame, he⟩
        rw [Key.text.inj hsame]
        exact he
      · simp [hx]

/-- **Before the entry a slot is defined once**: as the receiver or a parameter, or else as a global. -/
theorem definedBy_entryState_iff : (frame.entryState inputs).DefinedBy x d ↔
    frame.function.entryKey? x = some d ∨ (frame.function.entryKey? x = none ∧
      ∃ name ∈ frame.globalsRead.toList, x = .text name ∧ d = globalKey name) := by
  have hparams := definedBy_params (x := x) (d := d) frame.function inputs frame.function.indexedParams
  have hloaded := ((frame.loaded_params inputs).receiver frame.function x).1
  unfold entryState
  dsimp only
  rw [definedBy_globals]
  refine or_congr ?_ (and_congr_left' ?_)
  · unfold Function.entryKey?
    cases frame.function.receiverSlot? with
    | none => simpa using hparams
    | some receiver =>
      rw [State.definedBy_assign, hparams]
      by_cases hx : x = receiver
      · simp [hx, eq_comm]
      · simp [hx, Ne.symm hx]
  · rw [Function.entryKey?_eq_none_iff, ← Bool.not_eq_true]
    exact not_congr hloaded

end Frame

/-! ### One node -/

namespace Wiring

variable {target : Option Slot} {x : Slot} {reads : List Slot} {made : Identity → Prop}

/-- A call that keeps its result in another slot, or not at all, keeps the definitions of the slot. -/
theorem keeps_result (h : target ≠ some x) : (result target reads made).keeps x := by
  cases target with
  | none => exact trivial
  | some slot => exact fun he => h (congrArg some he.symm)

theorem not_writes_result (h : target ≠ some x) :
    ¬ (result target reads made).writes x ∧ ∀ y, ¬ (result target reads made).wakes y x := by
  cases target with
  | none => exact ⟨fun hw => hw, fun _ hw => hw⟩
  | some slot => exact ⟨fun he => h (congrArg some (Eq.symm he)), fun _ hw => hw⟩

end Wiring

namespace Effect

variable {e : Effect} {n : Node} {name : String}

/-- Of what is not passed as an argument, a call writes the global that an output stands for. -/
theorem outputSlot?_eq_global (hargs : some name ∉ n.args) {output : Atom}
    (h : outputSlot? n output = some (.text name)) : output = .text (globalMarker name) := by
  have hslots : some (Key.text name) ∉ n.argSlots := by
    intro hmem
    obtain ⟨arg, harg, hsame⟩ := List.mem_map.1 hmem
    cases arg with
    | none => cases hsame
    | some slot =>
      rw [Key.text.inj (Option.some.inj hsame)] at harg
      exact hargs harg
  have hgetD : ∀ i, n.argSlots.getD i none ≠ some (.text name) := by
    intro i hi
    rw [List.getD_eq_getElem?_getD] at hi
    cases hslot : n.argSlots[i]? with
    | none =>
      rw [hslot] at hi
      cases hi
    | some slot =>
      rw [hslot] at hi
      exact hslots (hi ▸ List.mem_of_getElem? hslot)
  have hargAt : ∀ index, argAt n index ≠ some (.text name) := by
    intro index hi
    unfold argAt at hi
    dsimp only at hi
    generalize (if index < 0 then index + (n.args.length : Int) else index) = position at hi
    split at hi
    · cases hi
    · exact hgetD _ hi
  unfold outputSlot? at h
  split at h
  · next output =>
    split at h
    · exact absurd h (hgetD _)
    · split at h
      · exact absurd h (hargAt _)
      · obtain ⟨other, hother, hsame⟩ := Option.map_eq_some_iff.1 h
        rw [globalOfMarker?_eq_some_iff.1 hother, Key.text.inj hsame]
      · cases h
  · cases h

/-- A call defines nothing that it is not given, unless the called function outputs it. -/
theorem not_writes_of_not_outputs (htarget : n.targetSlot? ≠ some (.text name)) (hargs : some name ∉ n.args)
    (houtputs : ¬ e.Outputs name) (globals : Names) :
    ¬ (e.wiring globals n).writes (.text name) ∧ ∀ y, ¬ (e.wiring globals n).wakes y (.text name) := by
  refine ⟨?_, ?_⟩
  · rintro (h | ⟨output, hslot, i, made, rfl, hi⟩ | ⟨output, houtput, other, hother, -, hsame⟩)
    · exact htarget h
    · obtain rfl := Atom.text.inj (outputSlot?_eq_global hargs hslot)
      obtain ⟨taint, htaint, -⟩ := OrderedMap.has_getD_iff.1 hi
      exact houtputs (Or.inr (Or.inl ⟨taint, htaint⟩))
    · obtain rfl := Key.text.inj hsame
      obtain ⟨defs, hdefs⟩ := OrderedMap.mem_keys_iff.1 houtput
      rw [globalOfMarker?_eq_some_iff.1 hother] at hdefs
      exact houtputs (Or.inr (Or.inr ⟨defs, hdefs⟩))
  · rintro y ⟨output, hslot, t, ht, rfl, -⟩
    exact houtputs (Or.inl ⟨t, ht, outputSlot?_eq_global hargs hslot⟩)

end Effect

namespace Frame

variable {frame : Frame} {inputs : KeyMap TaintSet} {id : String} {n : Node} {name d : String} {s : State}

theorem targetSlot?_ne_of_target_ne (htarget : n.target ≠ .text name) :
    n.targetSlot? ≠ some (.text name) := by
  intro h
  unfold Node.targetSlot? Document.slot? at h
  split at h
  · exact htarget (Document.eq_text_of_key? h)
  · cases h

/-- A node keeps the definitions of what is not its target. -/
theorem keeps_of_target_ne (htarget : n.target ≠ .text name) : (frame.wiring n).keeps (.text name) := by
  have hslot := targetSlot?_ne_of_target_ne htarget
  unfold wiring
  cases n.kind with
  | assign =>
    dsimp only
    split
    · next target ht => exact fun he => htarget (Document.eq_text_of_key? (he ▸ ht))
    · exact trivial
  | call =>
    show (frame.callWiring n).keeps (.text name)
    unfold callWiring
    cases frame.role n with
    | resolved => exact hslot
    | _ => exact Wiring.keeps_result hslot
  | ret | branch | nop => exact trivial

/-- A node that is no return defines nothing but its target and what its call outputs. -/
theorem not_writes_of_spares (htarget : n.target ≠ .text name) (hargs : n.kind = .call → some name ∉ n.args)
    (heffects : ∀ callee e, frame.effects callee = some e → ¬ e.Outputs name)
    (hkind : n.kind = .ret → name ≠ returnSlot) :
    ¬ (frame.wiring n).writes (.text name) ∧ ∀ y, ¬ (frame.wiring n).wakes y (.text name) := by
  have hslot := targetSlot?_ne_of_target_ne htarget
  unfold wiring
  cases hn : n.kind with
  | assign =>
    dsimp only
    split
    · next target ht =>
      exact ⟨fun he => htarget (Document.eq_text_of_key? (he ▸ ht)), fun _ h => h⟩
    · exact ⟨fun h => h, fun _ h => h⟩
  | ret => exact ⟨fun he => hkind hn (Key.text.inj he), fun _ h => h⟩
  | call =>
    show ¬ (frame.callWiring n).writes (.text name) ∧ ∀ y, ¬ (frame.callWiring n).wakes y (.text name)
    unfold callWiring
    cases hrole : frame.role n with
    | resolved callee effect =>
      refine Effect.not_writes_of_not_outputs hslot (hargs hn) ?_ frame.globals
      obtain ⟨-, rfl⟩ := effect_of_role hrole
      cases heffect : frame.effects callee with
      | none => exact Effect.not_outputs_pending name
      | some e => exact heffects callee e heffect
    | _ => exact Wiring.not_writes_result hslot
  | branch | nop => exact ⟨fun h => h, fun _ h => h⟩

theorem definedBy_transfer_of_target_ne (htarget : n.target ≠ .text name) (hd : s.DefinedBy (.text name) d) :
    (frame.transfer id n s).DefinedBy (.text name) d :=
  ((frame.describes_transfer id n).definedBy_iff s _ d).2 (Or.inl ⟨keeps_of_target_ne htarget, hd⟩)

theorem definedBy_transfer_of_ret (hkind : n.kind = .ret) :
    (frame.transfer id n s).DefinedBy (.text returnSlot) (frame.function.key id) := by
  refine ((frame.describes_transfer id n).definedBy_iff s _ _).2 (Or.inr ⟨rfl, Or.inl ?_⟩)
  unfold wiring
  rw [hkind]
  exact rfl

/-- **What a node adds to the definitions of a spared global**, if no function that is called outputs it. -/
theorem definedBy_of_transfer (htarget : n.target ≠ .text name) (hargs : n.kind = .call → some name ∉ n.args)
    (heffects : ∀ callee e, frame.effects callee = some e → ¬ e.Outputs name)
    (hd : (frame.transfer id n s).DefinedBy (.text name) d) :
    s.DefinedBy (.text name) d ∨ (name = returnSlot ∧ n.kind = .ret ∧ d = frame.function.key id) := by
  rcases ((frame.describes_transfer id n).definedBy_iff s _ d).1 hd with ⟨-, hbefore⟩ | ⟨hkey, hwrites⟩
  · exact Or.inl hbefore
  · refine Or.inr ?_
    by_contra hnot
    have hkind : n.kind = .ret → name ≠ returnSlot := fun hret he => hnot ⟨he, hret, hkey⟩
    obtain ⟨hwritten, hwoken⟩ := not_writes_of_spares htarget hargs heffects hkind
    rcases hwrites with h | ⟨y, h, -⟩
    · exact hwritten h
    · exact hwoken y h

/-! ### A whole path -/

theorem leavesAt_iff : frame.leavesAt id = true ↔
    ∃ n, frame.function.node? id = some n ∧ (n.kind = .ret ∨ n.succ = []) := by
  unfold leavesAt
  cases frame.function.node? id <;> simp

variable {ids : List String}

/-- The definitions from before the entry come along every path. -/
theorem definedBy_arriving_of_entry (hspares : frame.function.Spares name)
    (hpath : frame.function.Path ids id) (hd : (frame.entryState inputs).DefinedBy (.text name) d) :
    (frame.arriving inputs ids).DefinedBy (.text name) d := by
  induction hpath with
  | entry => exact hd
  | @step ids node succ n _ hnode _ ih =>
    rw [arriving_concat hnode]
    exact definedBy_transfer_of_target_ne (hspares.target node n hnode) ih

/-- **The definitions of a spared global along a path** are those from before the entry, with those of the
returns. -/
theorem definedBy_of_arriving (hspares : frame.function.Spares name)
    (heffects : ∀ callee e, frame.effects callee = some e → ¬ e.Outputs name)
    (hpath : frame.function.Path ids id) (hd : (frame.arriving inputs ids).DefinedBy (.text name) d) :
    (frame.entryState inputs).DefinedBy (.text name) d ∨ frame.function.DefinedByReturn name d := by
  induction hpath with
  | entry => exact Or.inl hd
  | @step ids node succ n hprior hnode _ ih =>
    rw [arriving_concat hnode] at hd
    rcases definedBy_of_transfer (hspares.target node n hnode) (hspares.args node n hnode) heffects hd with
      hbefore | ⟨hname, hkind, hkey⟩
    · exact ih hbefore
    · exact Or.inr ⟨hname, node, n, ⟨ids, hprior⟩, hnode, hkind, hkey⟩

/-! ### The end of a function -/

variable {visits : Amount} {a : Analysis}

/-- **A function that redefines a spared global counts as writing it.** -/
theorem writes_of_redefines (hspares : frame.function.Spares name)
    (h : frame.analyze visits inputs = .ok a) (hredefines : frame.function.Redefines frame.globals name) :
    a.Writes name := by
  have hexit : ∀ d, a.exit.DefinedBy (.text name) d ↔ ∃ ids id, frame.function.Path ids id ∧
      frame.leavesAt id = true ∧ (frame.arriving inputs (ids ++ [id])).DefinedBy (.text name) d :=
    fun d => (says_of_analyze h).1 (.exitDefined (.text name) d)
  rcases hredefines.2 with ⟨⟨d, hentry, hne⟩, id, n, ⟨ids, hpath⟩, hnode, hleaves⟩ |
    ⟨d, ⟨rfl, id, n, ⟨ids, hpath⟩, hnode, hkind, rfl⟩, hne⟩
  · refine ⟨d, hne, (hexit d).2 ⟨ids, id, hpath, leavesAt_iff.2 ⟨n, hnode, hleaves⟩, ?_⟩⟩
    rw [arriving_concat hnode]
    exact definedBy_transfer_of_target_ne (hspares.target id n hnode)
      (definedBy_arriving_of_entry hspares hpath (definedBy_entryState_iff.2 (Or.inl hentry)))
  · refine ⟨_, hne, (hexit _).2 ⟨ids, id, hpath, leavesAt_iff.2 ⟨n, hnode, Or.inl hkind⟩, ?_⟩⟩
    rw [arriving_concat hnode]
    exact definedBy_transfer_of_ret hkind

/-- **A function that counts as writing a spared global redefines it**, if no function that it calls outputs
the global. -/
theorem redefines_of_writes (hspares : frame.function.Spares name)
    (heffects : ∀ callee e, frame.effects callee = some e → ¬ e.Outputs name)
    (h : frame.analyze visits inputs = .ok a) (hname : name ∈ a.globals) (hwrites : a.Writes name) :
    frame.function.Redefines frame.globals name := by
  obtain ⟨d, hne, hd⟩ := hwrites
  have hexit := ((says_of_analyze h).1 (.exitDefined (.text name) d)).1 hd
  obtain ⟨ids, id, hpath, hleaves, hd⟩ := hexit
  obtain ⟨n, hnode, hends⟩ := leavesAt_iff.1 hleaves
  have hend : frame.function.Ends := ⟨id, n, ⟨ids, hpath⟩, hnode, hends⟩
  rw [globals_of_analyze h] at hname
  refine ⟨hname, ?_⟩
  rw [arriving_concat hnode] at hd
  have hfound : (frame.entryState inputs).DefinedBy (.text name) d ∨
      frame.function.DefinedByReturn name d := by
    rcases definedBy_of_transfer (hspares.target id n hnode) (hspares.args id n hnode) heffects hd with
      hbefore | ⟨hresult, hkind, hkey⟩
    · exact definedBy_of_arriving hspares heffects hpath hbefore
    · exact Or.inr ⟨hresult, id, n, ⟨ids, hpath⟩, hnode, hkind, hkey⟩
  rcases hfound with hentry | hreturn
  · refine Or.inl ⟨?_, hend⟩
    rcases definedBy_entryState_iff.1 hentry with hkey | ⟨-, other, -, hsame, rfl⟩
    · exact ⟨d, hkey, hne⟩
    · exact absurd (congrArg globalKey (Key.text.inj hsame).symm) hne
  · exact Or.inr ⟨d, hreturn, hne⟩

end Frame

end TaintFlow
