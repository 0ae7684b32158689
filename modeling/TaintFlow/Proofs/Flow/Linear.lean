import TaintFlow.Proofs.Flow.Callees
import TaintFlow.Proofs.Flow.Exact

/-!
# What leaves a function is linear in what enters it

The state at the end carries the labels that some way through the function makes (`Frame.Generates`)
together with the labels of the inputs that some way moves there (`Frame.Flows`), whatever the inputs
are (`carries_exit_iff`).  A label is made by a source, by a call into code that could not be analysed, or
by a called function that is said to make it.
-/

namespace TaintFlow

/-- The label of a source, or of a call into code that could not be analysed. -/
def Registry.Fresh (rules : Registry) (i : Identity) : Prop :=
  i = ⟨.singleton .unknownExternal, none, ∅⟩ ∨
    ∃ rule ∈ rules.sources.values, i = ⟨.singleton rule.origin, rule.context, ∅⟩

theorem Registry.Fresh.symbols {rules : Registry} {i : Identity} (h : rules.Fresh i) :
    i.symbols = ∅ := by
  rcases h with rfl | ⟨rule, -, rfl⟩ <;> rfl

theorem Registry.Fresh.origins {rules : Registry} {i : Identity} (h : rules.Fresh i) :
    i.origins ≠ ∅ := by
  have hsingle : ∀ origin : Origin, OrderedSet.singleton origin ≠ ∅ := by
    intro origin he
    have hmem : origin ∈ OrderedSet.singleton origin := OrderedSet.mem_singleton.2 rfl
    rw [he] at hmem
    exact OrderedSet.not_mem_empty origin hmem
  rcases h with rfl | ⟨rule, -, rfl⟩
  · exact hsingle _
  · exact hsingle _

namespace Frame

/-- Some way through the function takes the labels of the first slot at the entry to the second slot
at the end. -/
def Flows (frame : Frame) (y x : Slot) : Prop :=
  ∃ ids id, frame.function.Path ids id ∧ frame.leavesAt id = true ∧ frame.Moves (ids ++ [id]) y x

/-- Some way through the function makes a label that stands in the slot at the end. -/
def Generates (frame : Frame) (x : Slot) (i : Identity) : Prop :=
  ∃ ids id, frame.function.Path ids id ∧ frame.leavesAt id = true ∧ frame.Makes (ids ++ [id]) x i

/-- Some called function is said to make a label. -/
def CalleesMake (frame : Frame) (i : Identity) : Prop :=
  ∃ callee effect output, frame.effects callee = some effect ∧
    (effect.generated.getD output ∅).has i = true

variable {frame : Frame} {inputs : KeyMap TaintSet} {visits : Amount} {a : Analysis}

theorem carries_exit_iff (h : frame.analyze visits inputs = .ok a) (x : Slot) (i : Identity) :
    a.exit.Carries x i ↔ frame.Generates x i ∨
      ∃ y, frame.Flows y x ∧ frame.function.IsInput frame.globals y ∧
        (inputs.getD y ∅).has i = true := by
  obtain ⟨p, hp, rfl⟩ := analyze_eq_ok h
  have hexit : (frame.finish p).exit.Carries x i ↔
      ∃ ids id, frame.function.Path ids id ∧ frame.leavesAt id = true ∧
        (frame.arriving inputs (ids ++ [id])).Carries x i :=
    (invariant_of_visits hp.1).carries_exitState_iff hp.2 x i
  rw [hexit]
  simp only [arriving, carries_along_iff, carries_entryState_iff]
  constructor
  · rintro ⟨ids, id, hpath, hleaves, hm | ⟨y, hy, hin, hi⟩⟩
    · exact Or.inl ⟨ids, id, hpath, hleaves, hm⟩
    · exact Or.inr ⟨y, ⟨ids, id, hpath, hleaves, hy⟩, hin, hi⟩
  · rintro (⟨ids, id, hpath, hleaves, hm⟩ | ⟨y, ⟨ids, id, hpath, hleaves, hy⟩, hin, hi⟩)
    · exact ⟨ids, id, hpath, hleaves, Or.inl hm⟩
    · exact ⟨ids, id, hpath, hleaves, Or.inr ⟨y, hy, hin, hi⟩⟩

theorem role_eq_source {n : Node} {rule : SourceRule} (h : frame.role n = .source rule) :
    rule ∈ frame.rules.sources.values := by
  unfold role at h
  split at h
  · next found hfound =>
    cases h
    unfold Registry.source? Registry.lookup at hfound
    split at hfound
    · obtain ⟨key, -, hkey⟩ := Option.bind_eq_some_iff.1 hfound
      exact OrderedMap.mem_values_iff.2 ⟨key, hkey⟩
    · cases hfound
  · split at h
    · cases h
    · split at h
      · cases h
      · dsimp only at h
        split at h <;> cases h

/-- A node makes fresh labels, unless it calls a function that is said to make others. -/
theorem made_of_makes {n : Node} {x : Slot} {i : Identity} (h : (frame.wiring n).makes x i) :
    frame.rules.Fresh i ∨ frame.CalleesMake i := by
  have hresult : ∀ {target : Option Slot} {reads : List Slot} {made : Identity → Prop},
      (Wiring.result target reads made).makes x i → made i := by
    intro target reads made hm
    unfold Wiring.result at hm
    cases target with
    | none => exact hm.elim
    | some slot => exact hm.2
  unfold wiring at h
  split at h
  · split at h
    · exact h.2.elim
    · exact h.elim
  · exact h.elim
  · unfold callWiring at h
    cases hrole : frame.role n with
    | source rule =>
      rw [hrole] at h
      exact Or.inl (Or.inr ⟨rule, role_eq_source hrole, hresult h⟩)
    | sanitizer =>
      rw [hrole] at h
      exact (hresult h).elim
    | resolved callee effect =>
      rw [hrole] at h
      obtain ⟨output, -, name, -, hi⟩ := h
      rw [(effect_of_role hrole).2] at hi
      cases he : frame.effects callee with
      | none =>
        rw [he] at hi
        cases hi
      | some e =>
        rw [he] at hi
        exact Or.inr ⟨callee, e, name, he, hi⟩
    | degraded =>
      rw [hrole] at h
      exact Or.inl (Or.inl (hresult h))
    | unresolved =>
      rw [hrole] at h
      exact (hresult h).elim
  · exact h.elim
  · exact h.elim

theorem made_of_generates {x : Slot} {i : Identity} (h : frame.Generates x i) :
    frame.rules.Fresh i ∨ frame.CalleesMake i := by
  obtain ⟨ids, last, -, -, hm⟩ := h
  obtain ⟨id, -, z, hz⟩ := exists_makes_of_makes hm
  unfold wiringAt at hz
  cases hnode : frame.function.node? id with
  | none =>
    rw [hnode] at hz
    exact hz.elim
  | some n =>
    rw [hnode] at hz
    exact made_of_makes hz

theorem Generates.symbols (hmarkers : ∀ i, frame.CalleesMake i → i.symbols = ∅) {x : Slot}
    {i : Identity} (h : frame.Generates x i) : i.symbols = ∅ := by
  rcases made_of_generates h with hfresh | hmade
  · exact hfresh.symbols
  · exact hmarkers i hmade

/-- The labels at the end of a symbolic run are made on the way, or they are markers of inputs. -/
theorem generates_or_marker
    (h : frame.analyze visits (frame.function.symbolicInputs frame.globals) = .ok a) {x : Slot}
    {i : Identity} (hi : a.exit.Carries x i) : frame.Generates x i ∨
      ∃ m y, i = markerIdentity m ∧ frame.Flows y x ∧ frame.function.Marks frame.globals m y := by
  rcases (carries_exit_iff h x i).1 hi with hgen | ⟨y, hy, -, hi⟩
  · exact Or.inl hgen
  · obtain ⟨m, rfl, hmarks⟩ := Function.has_symbolicInputs_iff.1 hi
    exact Or.inr ⟨m, y, rfl, hy, hmarks⟩

/-- The markers in a slot at the end of a symbolic run are those of the inputs that flow into it. -/
theorem exists_symbol_iff
    (h : frame.analyze visits (frame.function.symbolicInputs frame.globals) = .ok a)
    (hmarkers : ∀ i, frame.CalleesMake i → i.symbols = ∅) (x : Slot) (m : String) :
    (∃ i, a.exit.Carries x i ∧ m ∈ i.symbols) ↔
      ∃ y, frame.Flows y x ∧ frame.function.Marks frame.globals m y := by
  constructor
  · rintro ⟨i, hi, hm⟩
    rcases generates_or_marker h hi with hgen | ⟨m', y, rfl, hy, hmarks⟩
    · rw [hgen.symbols hmarkers] at hm
      exact absurd hm (OrderedSet.not_mem_empty m)
    · have he : m = m' := OrderedSet.mem_singleton.1 hm
      subst he
      exact ⟨y, hy, hmarks⟩
  · rintro ⟨y, hy, hmarks⟩
    refine ⟨markerIdentity m, ?_, OrderedSet.mem_singleton.2 rfl⟩
    exact (carries_exit_iff h x _).2 (Or.inr ⟨y, hy, ⟨m, hmarks.input⟩, hmarks⟩)

end Frame

end TaintFlow
