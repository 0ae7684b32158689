import Mathlib.Data.Set.Finite.Lattice
import Mathlib.Data.Set.Finite.List
import TaintFlow.Proofs.Flow.Monotone

/-!
# What can occur in a function

The slots, labels and definitions that some path of control yields are finitely many
(`finite_occurringSlots`, `finite_occurringLabels`, `finite_occurringDefinitions`), however long the paths get: a
path moves labels around and makes only those of its nodes, and all that a node defines is known without the state
before it.  So a called function may well output to slots that the function does not mention.
-/

namespace TaintFlow

namespace State

theorem finite_carries (s : State) : {i | ∃ x, s.Carries x i}.Finite := by
  refine (List.finite_toSet (s.taint.entries.flatMap fun entry => entry.2.labels.map Label.identity)).subset ?_
  rintro i ⟨x, hx⟩
  obtain ⟨entry, hentry, -, hi⟩ := carries_iff_entry.1 hx
  obtain ⟨l, hl, rfl⟩ := TaintSet.has_iff.1 hi
  exact List.mem_flatMap.2 ⟨entry, hentry, List.mem_map.2 ⟨l, hl, rfl⟩⟩

theorem finite_definedBy (s : State) : {d | ∃ x, s.DefinedBy x d}.Finite := by
  refine (List.finite_toSet (s.defs.entries.flatMap fun entry => entry.2.toList)).subset ?_
  rintro d ⟨x, hx⟩
  obtain ⟨entry, hentry, -, hd⟩ := definedBy_iff_entry.1 hx
  exact List.mem_flatMap.2 ⟨entry, hentry, hd⟩

theorem finite_defined (s : State) : {x | ∃ d, s.DefinedBy x d}.Finite := by
  refine (List.finite_toSet (s.defs.entries.map Prod.fst)).subset ?_
  rintro x ⟨d, hx⟩
  obtain ⟨entry, hentry, rfl, -⟩ := definedBy_iff_entry.1 hx
  exact List.mem_map.2 ⟨entry, hentry, rfl⟩

end State

/-! ### What a node can define and make -/

namespace Wiring

variable {target : Slot} {reads : List Slot} {made : Identity → Prop}

theorem finite_defines_overwrite : {x | (overwrite target reads made).Defines x}.Finite :=
  (Set.finite_singleton target).subset fun _ h => h.elim id fun ⟨_, hy⟩ => hy.elim

theorem finite_defines_idle : {x | idle.Defines x}.Finite :=
  Set.finite_empty.subset fun _ h => h.elim id fun ⟨_, hy⟩ => hy

theorem finite_defines_extend : {x | (extend target reads).Defines x}.Finite :=
  (Set.finite_singleton target).subset fun _ h => h.elim id fun ⟨_, hy⟩ => hy.elim

theorem finite_defines_result {target : Option Slot} : {x | (result target reads made).Defines x}.Finite := by
  cases target with
  | none => exact finite_defines_idle
  | some target => exact finite_defines_overwrite

theorem finite_makes_overwrite (h : {i | made i}.Finite) :
    {i | ∃ x, (overwrite target reads made).makes x i}.Finite :=
  h.subset fun _ ⟨_, _, hi⟩ => hi

theorem finite_makes_idle : {i | ∃ x, idle.makes x i}.Finite := Set.finite_empty.subset fun _ ⟨_, hi⟩ => hi

theorem finite_makes_extend : {i | ∃ x, (extend target reads).makes x i}.Finite :=
  Set.finite_empty.subset fun _ ⟨_, hi⟩ => hi

theorem finite_makes_result {target : Option Slot} (h : {i | made i}.Finite) :
    {i | ∃ x, (result target reads made).makes x i}.Finite := by
  cases target with
  | none => exact finite_makes_idle
  | some target => exact finite_makes_overwrite h

end Wiring

namespace Effect

/-- The outputs that the effect may deliver something to. -/
def reachable (e : Effect) : List Atom := e.transfers.toList.map Transfer.output ++ e.generated.keys.map Atom.text

theorem mem_reachable_of_feeds {e : Effect} {n : Node} {y : Slot} {output : Atom} (h : e.Feeds n y output) :
    output ∈ e.reachable := by
  obtain ⟨t, ht, rfl, -⟩ := h
  exact List.mem_append_left _ (List.mem_map.2 ⟨t, ht, rfl⟩)

theorem mem_reachable_of_makes {e : Effect} {output : Atom} {i : Identity} (h : e.Makes output i) :
    output ∈ e.reachable := by
  obtain ⟨name, rfl, hi⟩ := h
  obtain ⟨taint, htaint, -⟩ := OrderedMap.has_getD_iff.1 hi
  exact List.mem_append_right _ (List.mem_map.2 ⟨name, OrderedMap.mem_keys_iff.2 ⟨taint, htaint⟩, rfl⟩)

theorem finite_defines (e : Effect) (globals : Names) (n : Node) :
    {x | (e.wiring globals n).Defines x}.Finite := by
  refine (List.finite_toSet (n.targetSlot?.toList ++ e.reachable.filterMap (outputSlot? n) ++
    globals.toList.map Key.text)).subset ?_
  have hreachable : ∀ {output : Atom} {x : Slot}, output ∈ e.reachable → outputSlot? n output = some x →
      x ∈ n.targetSlot?.toList ++ e.reachable.filterMap (outputSlot? n) ++ globals.toList.map Key.text :=
    fun ho hx => List.mem_append_left _ (List.mem_append_right _ (List.mem_filterMap.2 ⟨_, ho, hx⟩))
  rintro x ((htarget | ⟨output, hx, i, hmakes⟩ | ⟨output, -, name, -, hname, rfl⟩) | ⟨y, output, hx, hfeeds⟩)
  · exact List.mem_append_left _ (List.mem_append_left _ (Option.mem_toList.2 htarget))
  · exact hreachable (mem_reachable_of_makes hmakes) hx
  · exact List.mem_append_right _ (List.mem_map.2 ⟨name, hname, rfl⟩)
  · exact hreachable (mem_reachable_of_feeds hfeeds) hx

theorem finite_makes (e : Effect) (globals : Names) (n : Node) :
    {i | ∃ x, (e.wiring globals n).makes x i}.Finite := by
  refine (List.finite_toSet (e.generated.values.flatMap fun taint => taint.labels.map Label.identity)).subset ?_
  rintro i ⟨x, output, -, name, rfl, hi⟩
  obtain ⟨taint, htaint, hi⟩ := OrderedMap.has_getD_iff.1 hi
  obtain ⟨l, hl, rfl⟩ := TaintSet.has_iff.1 hi
  exact List.mem_flatMap.2 ⟨taint, OrderedMap.mem_values_iff.2 ⟨name, htaint⟩, List.mem_map.2 ⟨l, hl, rfl⟩⟩

end Effect

namespace Frame

theorem finite_defines (frame : Frame) (n : Node) : {x | (frame.wiring n).Defines x}.Finite := by
  unfold wiring
  split
  · split
    · exact Wiring.finite_defines_overwrite
    · exact Wiring.finite_defines_idle
  · exact Wiring.finite_defines_extend
  · unfold callWiring
    split
    · exact Wiring.finite_defines_result
    · exact Wiring.finite_defines_result
    · next effect _ => exact effect.finite_defines frame.globals n
    · exact Wiring.finite_defines_result
    · exact Wiring.finite_defines_result
  · exact Wiring.finite_defines_idle
  · exact Wiring.finite_defines_idle

theorem finite_makes (frame : Frame) (n : Node) : {i | ∃ x, (frame.wiring n).makes x i}.Finite := by
  unfold wiring
  split
  · split
    · exact Wiring.finite_makes_overwrite Set.finite_empty
    · exact Wiring.finite_makes_idle
  · exact Wiring.finite_makes_extend
  · unfold callWiring
    split
    · exact Wiring.finite_makes_result (Set.finite_singleton _)
    · exact Wiring.finite_makes_result Set.finite_empty
    · next effect _ => exact effect.finite_makes frame.globals n
    · exact Wiring.finite_makes_result (Set.finite_singleton _)
    · exact Wiring.finite_makes_result Set.finite_empty
  · exact Wiring.finite_makes_idle
  · exact Wiring.finite_makes_idle

/-! ### What paths yield -/

variable {frame : Frame} {inputs : KeyMap TaintSet}

/-- The slots that have a definition at the end of some path. -/
def occurringSlots (frame : Frame) (inputs : KeyMap TaintSet) : Set Slot :=
  {x | ∃ ids id d, frame.function.Path ids id ∧ (frame.arriving inputs ids).DefinedBy x d}

def occurringLabels (frame : Frame) (inputs : KeyMap TaintSet) : Set Identity :=
  {i | ∃ ids id x, frame.function.Path ids id ∧ (frame.arriving inputs ids).Carries x i}

def occurringDefinitions (frame : Frame) (inputs : KeyMap TaintSet) : Set String :=
  {d | ∃ ids id x, frame.function.Path ids id ∧ (frame.arriving inputs ids).DefinedBy x d}

theorem finite_exists_node {α : Type} (f : Function) (belongs : String → Node → α → Prop)
    (h : ∀ id n, {a | belongs id n a}.Finite) : {a | ∃ id n, f.node? id = some n ∧ belongs id n a}.Finite := by
  have hnodes : (⋃ entry ∈ {entry | entry ∈ f.nodes.entries}, {a | belongs entry.1 entry.2 a}).Finite :=
    (List.finite_toSet f.nodes.entries).biUnion fun entry _ => h entry.1 entry.2
  refine hnodes.subset ?_
  rintro a ⟨id, n, hnode, ha⟩
  exact Set.mem_biUnion (Table.mem_entries_iff.2 hnode) ha

theorem finite_occurringDefinitions (frame : Frame) (inputs : KeyMap TaintSet) :
    (frame.occurringDefinitions inputs).Finite := by
  have hnodes := finite_exists_node frame.function (fun id _ d => d = frame.function.key id)
    fun _ _ => Set.finite_singleton _
  refine ((frame.entryState inputs).finite_definedBy.union hnodes).subset ?_
  rintro d ⟨ids, id, x, -, hd⟩
  exact (definedBy_along hd).imp (fun h => ⟨x, h⟩) fun ⟨id, n, hnode, he, _⟩ => ⟨id, n, hnode, he⟩

theorem finite_occurringSlots (frame : Frame) (inputs : KeyMap TaintSet) :
    (frame.occurringSlots inputs).Finite := by
  have hnodes := finite_exists_node frame.function (fun _ n x => (frame.wiring n).Defines x)
    fun _ n => frame.finite_defines n
  refine ((frame.entryState inputs).finite_defined.union hnodes).subset ?_
  rintro x ⟨ids, id, d, -, hd⟩
  exact (definedBy_along hd).imp (fun h => ⟨d, h⟩) fun ⟨id, n, hnode, _, hdefines⟩ => ⟨id, n, hnode, hdefines⟩

theorem finite_occurringLabels (frame : Frame) (inputs : KeyMap TaintSet) :
    (frame.occurringLabels inputs).Finite := by
  have hnodes := finite_exists_node frame.function (fun _ n i => ∃ x, (frame.wiring n).makes x i)
    fun _ n => frame.finite_makes n
  refine ((frame.entryState inputs).finite_carries.union hnodes).subset ?_
  rintro i ⟨ids, id, x, -, hi⟩
  rcases (carries_along_iff frame ids (frame.entryState inputs) x i).1 hi with hmakes | ⟨y, -, hy⟩
  · obtain ⟨other, -, z, hz⟩ := exists_makes_of_makes hmakes
    unfold wiringAt at hz
    cases hnode : frame.function.node? other with
    | none =>
      rw [hnode] at hz
      exact hz.elim
    | some n =>
      rw [hnode] at hz
      exact Or.inr ⟨other, n, hnode, z, hz⟩
  · exact Or.inl ⟨y, hy⟩

end Frame

end TaintFlow
