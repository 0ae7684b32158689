import TaintFlow.Program.Validate
import TaintFlow.Proofs.Flow.Core
import TaintFlow.Proofs.Flow.Inputs
import TaintFlow.Proofs.Flow.Worklist
import TaintFlow.Proofs.Number
import TaintFlow.Proofs.Result

/-!
# What can stop an analysis

A function that control does not leave by an edge into nothing (`Function.Closed`), that names only what can
be searched by (`Function.Named`), and that calls functions whose effects can be applied
(`Effect.Applicable`), is analysed until its budget is used up.  Such a fault belongs to the function, unless
its budget has too many digits to be shown (`Frame.yields_analyze`).
-/

namespace TaintFlow

/-! ### Functions that can be gone through -/

/-- Whatever a node names can be searched by. -/
structure Node.Named (n : Node) : Prop where
  target : n.target.key?.isSome = true
  api : n.api.key?.isSome = true
  callee : n.callee.key?.isSome = true
  receiver : n.receiver.key?.isSome = true

instance (n : Node) : Decidable n.Named :=
  decidable_of_iff (n.target.key?.isSome = true ∧ n.api.key?.isSome = true ∧
      n.callee.key?.isSome = true ∧ n.receiver.key?.isSome = true)
    ⟨fun ⟨target, api, callee, receiver⟩ => ⟨target, api, callee, receiver⟩,
      fun ⟨target, api, callee, receiver⟩ => ⟨target, api, callee, receiver⟩⟩

theorem Document.isName_of_key? {d : Document} (h : d.key?.isSome = true) : d.isName = true := by
  rw [isName, h, Bool.or_true]

namespace Function

variable {f g : Function} {known : Names}

/-- Whatever a function and its nodes name can be searched by, and the index of every parameter can be read. -/
structure Named (f : Function) : Prop where
  receiver : f.receiver.key?.isSome = true
  nodes : ∀ id n, f.node? id = some n → n.Named
  params : f.params.length ≤ 10 ^ digitLimit

theorem named_iff : f.Named ↔ f.receiver.key?.isSome = true ∧
    (∀ entry ∈ f.nodes.entries, entry.2.Named) ∧ f.params.length ≤ 10 ^ digitLimit :=
  ⟨fun h => ⟨h.receiver, fun entry hentry => h.nodes entry.1 entry.2 (Table.mem_entries_iff.1 hentry),
      h.params⟩,
    fun ⟨hreceiver, hnodes, hparams⟩ =>
      ⟨hreceiver, fun id n hn => hnodes (id, n) (Table.mem_entries_iff.2 hn), hparams⟩⟩

instance (f : Function) : Decidable f.Named := decidable_of_iff _ named_iff.symm

/-- Control enters at a node, and no edge leads out of the function. -/
structure Closed (f : Function) : Prop where
  entry : f.nodes.contains f.entry = true
  succ : ∀ id n, f.node? id = some n → ∀ next ∈ n.succ, f.nodes.contains next = true

theorem Named.isSearchable (h : f.Named) : f.isSearchable = true := by
  rw [Function.isSearchable, Document.isName_of_key? h.receiver, Bool.true_and, List.all_eq_true]
  intro n hn
  obtain ⟨id, hid⟩ := Table.mem_values_iff.1 hn
  obtain ⟨htarget, -, -, hreceiver⟩ := h.nodes id n hid
  rw [Node.isSearchable, Document.isName_of_key? htarget, Document.isName_of_key? hreceiver]
  simp

theorem closed_of_isValid (h : f.isValid known = true) : f.Closed := by
  rw [isValid, Option.isNone_iff_eq_none] at h
  unfold defect? at h
  split at h
  · cases h
  · next hentry =>
    split at h
    · cases h
    · refine ⟨by simpa using hentry, fun id n hn next hnext => ?_⟩
      have hnone := List.findSome?_eq_none_iff.1 h (id, n) (Table.mem_entries_iff.2 hn)
      dsimp only at hnone
      unfold Node.defect? at hnone
      split at hnone
      · cases hnone
      · next hfind =>
        have := List.find?_eq_none.1 hfind next hnext
        simpa using this

theorem contains_core (id : String) : f.core.nodes.contains id = f.nodes.contains id := by
  have hnode : f.core.nodes.get? id = (f.nodes.get? id).map Node.core := node?_core f id
  rw [Table.contains, Table.contains, hnode, Option.isSome_map]

/-- Whether control stays inside a function shows in its core. -/
theorem Closed.of_core_eq (h : g.Closed) (he : f.core = g.core) : f.Closed := by
  have hcontains : ∀ id, f.nodes.contains id = g.nodes.contains id := fun id => by
    rw [← contains_core, he, contains_core]
  refine ⟨?_, fun id n hn next hnext => ?_⟩
  · have hentry : f.core.entry = g.core.entry := congrArg Function.entry he
    rw [hcontains, show f.entry = g.entry from hentry]
    exact h.entry
  · have hnode : (g.node? id).map Node.core = some n.core := by
      rw [← node?_core, ← he, node?_core, hn]
      rfl
    obtain ⟨m, hm, hcore⟩ := Option.map_eq_some_iff.1 hnode
    have hsucc : m.core.succ = n.core.succ := congrArg Node.succ hcore
    rw [hcontains]
    exact h.succ id m hm next (show next ∈ m.core.succ from hsucc ▸ hnext)

/-- The number of visits that a function may take has too many digits to be shown. -/
def Unshowable (f : Function) (maxVisits : Int) : Prop :=
  Nat.pow 10 digitLimit ≤ (maxVisits * (max 1 f.nodes.size : Nat)).natAbs

end Function

/-! ### Effects that can be applied -/

namespace Effect

variable {e : Effect} {output : String}

def IsWritable (output : String) : Prop := ∀ n : Node, outputFault? n (.text output) = none

theorem isWritable_of_outputIndex (h : outputIndex output = .ok none) : IsWritable output := by
  intro n
  rw [outputFault?, h]

theorem isWritable_returnSlot : IsWritable returnSlot := isWritable_of_outputIndex (by decide +kernel)

theorem isWritable_globalMarker (name : String) : IsWritable (globalMarker name) := by
  refine isWritable_of_outputIndex ?_
  rw [outputIndex, after?_param_globalMarker]

theorem isWritable_paramMarker {index : Nat} (h : index < 10 ^ digitLimit) :
    IsWritable (paramMarker index) := by
  intro n
  have hafter : Text.after? "param:" (paramMarker index) = some (toString index) :=
    Text.after?_append _ _
  have hindex : outputIndex (paramMarker index) = .ok (some index) := by
    rw [outputIndex, hafter]
    dsimp only
    rw [Document.wholeIn, wholeOfText_toString_nat h]
    rfl
  rw [outputFault?, hindex]
  exact if_neg (by omega)

/-- Every flow goes from a text to a text, and every output can be written. -/
structure Applicable (e : Effect) : Prop where
  flows : ∀ t ∈ e.transfers, ∃ input output mark,
    t = ⟨.text input, .text output, .truth mark⟩ ∧ IsWritable output
  makes : ∀ output ∈ e.generated.keys, IsWritable output

theorem applicable_pending : Effect.pending.Applicable :=
  ⟨fun t ht => absurd ht (OrderedSet.not_mem_empty t), fun _ ho => absurd ho List.not_mem_nil⟩

theorem Applicable.flowFault? (h : e.Applicable) : e.flowFault? = none := by
  have hcomparable : ∀ a ∈ e.transfers, ∀ b ∈ e.transfers,
      Atom.areComparable a.members b.members = true := by
    intro a ha b hb
    obtain ⟨_, _, _, rfl, -⟩ := h.flows a ha
    obtain ⟨_, _, _, rfl, -⟩ := h.flows b hb
    simp only [Transfer.members, Atom.areComparable, Atom.rank]
    split <;> [split; rfl] <;> [split; rfl] <;> rfl
  have hzip : (e.transfers.toList.zip (e.transfers.toList.drop 1)).all
      (fun pair => Atom.areComparable pair.1.members pair.2.members) = true := by
    refine List.all_eq_true.2 fun pair hpair => ?_
    have hmem := List.of_mem_zip hpair
    exact hcomparable _ hmem.1 _ (List.mem_of_mem_drop hmem.2)
  have hinputs : e.transfers.toList.any (fun t => t.input.rank ≠ 0) = false := by
    refine List.any_eq_false.2 fun t ht => ?_
    obtain ⟨_, _, _, rfl, -⟩ := h.flows t ht
    simp [Atom.rank]
  unfold Effect.flowFault?
  simp only [hzip, hinputs, Bool.not_true, Bool.false_eq_true, if_false]

theorem Applicable.fault?_eq_none (h : e.Applicable) (n : Node) (s : State) (key : String) :
    e.fault? n s key = none := by
  rw [fault?, h.flowFault?, Option.none_or, List.findSome?_eq_none_iff]
  rintro ⟨output, taint⟩ hmem
  obtain ⟨other, hother, he⟩ := List.mem_map.1 hmem
  cases he
  obtain ⟨⟨_, _⟩, hdelivered, rfl⟩ := List.mem_map.1 (List.mem_eraseDups.1 hother)
  rcases List.mem_append.1 (List.mem_filter.1 hdelivered).1 with hcarried | hmade
  · obtain ⟨t, ht, he⟩ := List.mem_map.1 hcarried
    obtain ⟨_, _, _, rfl, hwritable⟩ := h.flows t ht
    cases he
    exact hwritable n
  · obtain ⟨⟨name, made⟩, hentry, he⟩ := List.mem_map.1 hmade
    cases he
    exact h.makes name (List.mem_map.2 ⟨_, hentry, rfl⟩) n

end Effect

/-! ### Budgets -/

theorem Amount.bound?_whole (n : Int) : (Amount.whole n).bound? = some n.toNat := by
  have hexact : (Amount.whole n).exact = .finite (n < 0) n.natAbs 0 := rfl
  have htruncate : Binary.truncate (n < 0) n.natAbs 0 = n := by
    have hpower : Binary.powerOfTwo 0 = (1, 1) := rfl
    rw [Binary.truncate, hpower]
    by_cases hn : n < 0
    · simp only [hn, Nat.mul_one, Nat.div_one, decide_true, if_true]
      omega
    · simp only [hn, Nat.mul_one, Nat.div_one, decide_false, Bool.false_eq_true, if_false]
      omega
  rw [bound?, hexact]
  simp only [htruncate]

/-! ### Analyses that stop -/

namespace Frame

variable {frame : Frame} {id : String} {n : Node}

def Applies (frame : Frame) : Prop := ∀ callee e, frame.effects callee = some e → e.Applicable

theorem Applies.getD_pending (h : frame.Applies) (callee : String) :
    ((frame.effects callee).getD .pending).Applicable := by
  cases he : frame.effects callee with
  | none => exact Effect.applicable_pending
  | some e => exact h callee e he

theorem Applies.fault?_eq_none (h : frame.Applies) (hn : n.Named) (id : String) (s : State) :
    frame.fault? id n s = none := by
  have hkey : ∀ {d : Document}, d.key?.isSome = true → d.key?.isNone = false := fun hd => by
    rw [← Option.not_isSome, hd]
    rfl
  unfold fault?
  split
  · rw [hkey hn.target]
    rfl
  · unfold callFault?
    rw [Document.isName_of_key? hn.api]
    rw [if_neg (by simp)]
    split
    · rfl
    · rfl
    · next callee effect hrole =>
      rw [hkey hn.receiver, if_neg Bool.false_ne_true]
      obtain rfl : (frame.effects callee).getD .pending = effect := by
        unfold role at hrole
        split at hrole
        · cases hrole
        · split at hrole
          · cases hrole
          · split at hrole
            · cases hrole
            · dsimp only at hrole
              split at hrole
              · cases hrole
              · cases hrole
                rfl
      exact (h.getD_pending callee).fault?_eq_none n s _
    · rw [hkey hn.callee]
      rfl
    · rw [hkey hn.callee]
      rfl
  · rfl
  · rfl
  · rfl

/-- What can stop the analysis of a function with a given number of visits for each node. -/
def Excuse (f : Function) (maxVisits : Int) (fault : Fault) : Prop :=
  fault.isLocal = true ∨ fault = .invalid .unshowable ∧ f.Unshowable maxVisits

theorem excuse_divergence (frame : Frame) (maxVisits : Int) (visits : Nat) :
    Excuse frame.function maxVisits (frame.divergence (frame.budget (.whole maxVisits)) visits) := by
  have hbudget : (frame.budget (.whole maxVisits)).toDocument =
      .whole (maxVisits * (max 1 frame.function.nodes.size : Nat)) := rfl
  rw [divergence, hbudget, Document.showable]
  by_cases hshown : (maxVisits * (max 1 frame.function.nodes.size : Nat)).natAbs < Nat.pow 10 digitLimit
  · rw [if_pos hshown]
    exact Or.inl rfl
  · rw [if_neg hshown]
    exact Or.inr ⟨rfl, Nat.not_lt.1 hshown⟩

theorem yields_loop (hnamed : frame.function.Named) (hclosed : frame.function.Closed)
    (happlies : frame.Applies) (maxVisits : Int) (fuel : Nat) (p : Progress)
    (hqueue : ∀ id ∈ p.queue, frame.function.nodes.contains id = true) :
    Result.Yields (Excuse frame.function maxVisits) (fun _ => True)
      (frame.loop (frame.budget (.whole maxVisits)) fuel p) := by
  induction fuel generalizing p with
  | zero =>
    unfold loop
    split
    · trivial
    · exact frame.excuse_divergence maxVisits _
  | succ fuel ih =>
    unfold loop
    split
    · trivial
    · next id queue hq =>
      obtain ⟨n, hn⟩ := Option.isSome_iff_exists.1 (hqueue id (hq ▸ List.mem_cons_self))
      have hn : frame.function.node? id = some n := hn
      dsimp only
      rw [hn]
      dsimp only
      rw [happlies.fault?_eq_none (hnamed.nodes id n hn)]
      refine ih _ fun next hnext => ?_
      -- the queue grows by successors of the node only
      rcases (Progress.flowed_foldl _ n.succ _).queued next hnext with hold | hsucc
      · exact hqueue next (hq ▸ List.mem_cons_of_mem id hold)
      · exact hclosed.succ id n hn next hsucc

/-- **An analysis stops for reasons of its function only**, or because its budget cannot be shown. -/
theorem yields_analyze (hnamed : frame.function.Named) (hclosed : frame.function.Closed)
    (happlies : frame.Applies) (maxVisits : Int) (inputs : KeyMap TaintSet) :
    Result.Yields (Excuse frame.function maxVisits) (fun _ => True)
      (frame.analyze (.whole maxVisits) inputs) := by
  unfold analyze
  rw [if_pos hnamed.isSearchable]
  refine Result.Yields.bind (motive := fun _ => True) ?_ fun p _ => trivial
  refine yields_loop hnamed hclosed happlies maxVisits _ _ fun id hid => ?_
  rw [List.mem_singleton.1 hid]
  exact hclosed.entry

/-- How many visits a function may take. -/
theorem bound?_budget (frame : Frame) (visits : Int) :
    (frame.budget (.whole visits)).bound? =
      some (visits * (max 1 frame.function.nodes.size : Nat)).toNat :=
  Amount.bound?_whole _

theorem pos_of_analyze {visits : Int} {inputs : KeyMap TaintSet} {a : Analysis}
    (h : frame.analyze (.whole visits) inputs = .ok a) : 0 < visits := by
  by_contra hneg
  have hzero : (visits * (max 1 frame.function.nodes.size : Nat)).toNat = 0 :=
    Int.toNat_of_nonpos (Int.mul_nonpos_of_nonpos_of_nonneg (Int.not_lt.1 hneg) (Int.natCast_nonneg _))
  unfold analyze at h
  dsimp only at h
  rw [bound?_budget, hzero] at h
  split at h
  · cases h
  · cases h

theorem isLocal_of_outputFault? {output : Atom} {fault : Fault}
    (h : Effect.outputFault? n output = some fault) : fault.isLocal = false := by
  have hwhole : ∀ {s : String} {fault : Fault}, Document.wholeIn s = .error fault →
      fault.isLocal = false := by
    intro s fault h
    unfold Document.wholeIn at h
    split at h <;> cases h <;> rfl
  unfold Effect.outputFault? at h
  split at h
  · split at h
    · split at h
      · cases h
        rfl
      · cases h
    · cases h
    · next fault' hindex =>
      cases h
      unfold Effect.outputIndex at hindex
      split at hindex
      · next index _ =>
        cases hread : Document.wholeIn index with
        | ok n =>
          rw [hread] at hindex
          cases hindex
        | error fault' =>
          rw [hread] at hindex
          cases hindex
          exact hwhole hread
      · cases hindex
  · cases h
    rfl

theorem isLocal_of_fault? {s : State} {fault : Fault}
    (h : frame.fault? id n s = some fault) : fault.isLocal = false := by
  have hkind : ∀ {c : Bool} {rest : Option Fault},
      (if c then some Fault.wrongKind else rest) = some fault →
        (rest = some fault → fault.isLocal = false) → fault.isLocal = false := by
    intro c rest h hrest
    split at h
    · cases h
      rfl
    · exact hrest h
  unfold fault? at h
  split at h
  · exact hkind h nofun
  · unfold callFault? at h
    refine hkind h fun h => ?_
    split at h
    · cases h
    · cases h
    · refine hkind h fun h => ?_
      unfold Effect.fault? at h
      rcases Option.or_eq_some_iff.1 h with h | ⟨-, h⟩
      · unfold Effect.flowFault? at h
        refine hkind h fun h => ?_
        split at h
        · cases h
          rfl
        · cases h
      · obtain ⟨output, -, h⟩ := List.exists_of_findSome?_eq_some h
        exact isLocal_of_outputFault? h
    · exact hkind h nofun
    · exact hkind h nofun
  · cases h
  · cases h
  · cases h

end Frame

end TaintFlow
