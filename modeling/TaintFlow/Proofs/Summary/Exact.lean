import TaintFlow.Program.Validate
import TaintFlow.Proofs.Flow.Linear
import TaintFlow.Proofs.Summary.Contents

/-!
# Summaries are exact

What leaves a function is linear in what enters it: labels that the function makes itself
(`Frame.Generates`) together with the labels of the inputs that flow into the slot (`Frame.Flows`).
The run with markers finds both parts, and the summary writes them down.  So the summary predicts the
run on any other inputs (`summary_exact`), and it predicts it at a call.

Only labels with an origin are written down as made by the function.  A label without one that a called
function is said to make is lost.
-/

namespace TaintFlow

/-- What an effect says arrives at an output, when each marker brings what it is given. -/
def Effect.Predicts (e : Effect) (given : String → Identity → Prop) (output : String)
    (i : Identity) : Prop :=
  (e.generated.getD output ∅).has i = true ∨
    ∃ m mark, (⟨.text m, .text output, mark⟩ : Transfer) ∈ e.transfers ∧ given m i

/-- At a call each marker brings what the call passes for it. -/
theorem Effect.has_outputs_iff_predicts {e : Effect} {n : Node} {s : State} {key output : String}
    {i : Identity} : (((e.outputs n s key).lookup (.text output)).getD ∅).has i = true ↔
      e.Predicts (fun m i => (n.passedTaint s m).has i = true) output i := by
  rw [has_lookup_outputs_iff]
  unfold Predicts Delivers
  simp only [Node.has_passedTaint_iff]
  constructor
  · rintro (⟨name, he, hi⟩ | ⟨y, ⟨⟨input, out, mark⟩, ht, rfl, m, rfl, hy⟩, hc⟩)
    · cases he
      exact Or.inl hi
    · exact Or.inr ⟨m, mark, ht, y, hy, hc⟩
  · rintro (hi | ⟨m, mark, ht, y, hy, hc⟩)
    · exact Or.inl ⟨output, rfl, hi⟩
    · exact Or.inr ⟨y, ⟨_, ht, rfl, m, rfl, hy⟩, hc⟩

namespace Frame

def Given (frame : Frame) (inputs : KeyMap TaintSet) (m : String) (i : Identity) : Prop :=
  ∃ x, frame.function.Marks frame.globals m x ∧ (inputs.getD x ∅).has i = true

variable {frame : Frame} {inputs : KeyMap TaintSet} {visits : Amount} {a : Analysis}

/-- In terms of markers, an input is whatever is marked. -/
theorem carries_exit_iff_given (h : frame.analyze visits inputs = .ok a) (x : Slot) (i : Identity) :
    a.exit.Carries x i ↔ frame.Generates x i ∨
      ∃ y m, frame.Flows y x ∧ frame.function.Marks frame.globals m y ∧
        frame.Given inputs m i := by
  rw [carries_exit_iff h]
  refine or_congr_right ⟨?_, ?_⟩
  · rintro ⟨y, hy, hin, hi⟩
    obtain ⟨m, hm⟩ := Function.isInput_iff_exists_marks.1 hin
    exact ⟨y, m, hy, hm, y, hm, hi⟩
  · rintro ⟨y, m, hy, hm, z, hz, hi⟩
    rw [← hm.slot_eq hz] at hi
    exact ⟨y, hy, ⟨m, hm.input⟩, hi⟩

/-- A transfer of a summary is a flow from a marked slot into an output. -/
theorem flows_of_mem_transfers
    (h : frame.analyze visits (frame.function.symbolicInputs frame.globals) = .ok a)
    (hmarkers : ∀ i, frame.CalleesMake i → i.symbols = ∅) {m output : String} {mark : Atom}
    (ht : ⟨.text m, .text output, mark⟩ ∈ (Summary.ofAnalysis frame.function a).transfers) :
    ∃ o ∈ Summary.outputs frame.function a, output = o.marker ∧
      ∃ y, frame.Flows y (.text o.slot) ∧ frame.function.Marks frame.globals m y := by
  obtain ⟨o, ho, l, hl, m', hm, -, he⟩ := Summary.mem_transfers_iff.1 ht
  cases he
  have hcarries : a.exit.Carries (.text o.slot) l.identity := TaintSet.has_iff.2 ⟨l, hl, rfl⟩
  exact ⟨o, ho, rfl, (exists_symbol_iff h hmarkers _ m).1 ⟨_, hcarries, hm⟩⟩

theorem flows_of_predicts
    (h : frame.analyze visits (frame.function.symbolicInputs frame.globals) = .ok a)
    (hmarkers : ∀ i, frame.CalleesMake i → i.symbols = ∅) {o : Summary.Output}
    (ho : o ∈ Summary.outputs frame.function a) {given : String → Identity → Prop} {i : Identity}
    (hp : (Summary.ofAnalysis frame.function a).Predicts given o.marker i) :
    frame.Generates (.text o.slot) i ∨ ∃ y m, frame.Flows y (.text o.slot) ∧
      frame.function.Marks frame.globals m y ∧ given m i := by
  rcases hp with hgen | ⟨m, mark, ht, hi⟩
  · rw [Summary.has_generated_iff ho, TaintSet.has_concrete_iff] at hgen
    obtain ⟨j, hj, horigins, rfl⟩ := hgen
    rcases generates_or_marker h hj with hmade | ⟨m, y, rfl, -⟩
    · rw [← hmade.symbols hmarkers]
      exact Or.inl hmade
    · cases horigins
  · obtain ⟨o', ho', he, y, hy, hmarks⟩ := flows_of_mem_transfers h hmarkers ht
    rw [Summary.output_eq_of_marker ho ho' he]
    exact Or.inr ⟨y, m, hy, hmarks, hi⟩

theorem predicts_of_generates
    (h : frame.analyze visits (frame.function.symbolicInputs frame.globals) = .ok a)
    (hmarkers : ∀ i, frame.CalleesMake i → i.symbols = ∅) {o : Summary.Output}
    (ho : o ∈ Summary.outputs frame.function a) {given : String → Identity → Prop} {i : Identity}
    (horigin : frame.CalleesMake i → i.origins ≠ ∅) (hgen : frame.Generates (.text o.slot) i) :
    (Summary.ofAnalysis frame.function a).Predicts given o.marker i := by
  have hmade : i.origins ≠ ∅ := by
    rcases made_of_generates hgen with hfresh | hi
    · exact hfresh.origins
    · exact horigin hi
  have horigins : i.origins.isEmpty = false := by
    rw [OrderedSet.isEmpty_eq_false_iff]
    by_contra hnone
    refine hmade (OrderedSet.eq_of_mem_iff fun origin => ?_)
    exact iff_of_false (fun hmem => hnone ⟨origin, hmem⟩) (OrderedSet.not_mem_empty origin)
  refine Or.inl ?_
  rw [Summary.has_generated_iff ho, TaintSet.has_concrete_iff]
  refine ⟨i, (carries_exit_iff h _ i).2 (Or.inl hgen), horigins, ?_⟩
  rw [← hgen.symbols hmarkers]

/-- What flows into an output is predicted, unless it is the output's own marker. -/
theorem predicts_of_flows
    (h : frame.analyze visits (frame.function.symbolicInputs frame.globals) = .ok a)
    (hmarkers : ∀ i, frame.CalleesMake i → i.symbols = ∅) {o : Summary.Output}
    (ho : o ∈ Summary.outputs frame.function a) {given : String → Identity → Prop} {i : Identity}
    {y : Slot} {m : String} (hflow : frame.Flows y (.text o.slot))
    (hmarks : frame.function.Marks frame.globals m y) (hne : m ≠ o.marker) (hi : given m i) :
    (Summary.ofAnalysis frame.function a).Predicts given o.marker i := by
  obtain ⟨j, hj, hm⟩ := (exists_symbol_iff h hmarkers _ m).2 ⟨y, hflow, hmarks⟩
  obtain ⟨l, hl, rfl⟩ := TaintSet.has_iff.1 hj
  exact Or.inr ⟨m, .truth l.crossedUnknown,
    Summary.mem_transfers_iff.2 ⟨o, ho, l, hl, m, hm, Or.inl hne, rfl⟩, hi⟩

/-- The own marker of an output marks the slot of the output. -/
theorem slot_of_marks_output {o : Summary.Output} (ho : o ∈ Summary.outputs frame.function a)
    {y : Slot} (hmarks : frame.function.Marks frame.globals o.marker y) : y = .text o.slot := by
  have hinput := hmarks.input
  simp only [Summary.outputs, List.cons_append, List.mem_cons, List.mem_append, List.mem_map,
    List.mem_filter] at ho
  rcases ho with rfl | ⟨⟨index, p⟩, ⟨hp, -⟩, rfl⟩ | ⟨name, -, rfl⟩
  · exact absurd rfl hinput.ne_returnSlot
  · exact hinput.slot_eq (.param (Function.mem_indexedParams_iff.1 hp))
  · exact hinput.eq_of_globalMarker

/-- **A summary is exact.**  For labels that have an origin, or that no called function is said to
make, the summary says just what leaves the function on any inputs: for the result as it is, for every
other output up to what the output was given itself.  This is what a call delivers that passes these
inputs. -/
theorem summary_exact (frame : Frame) (visits visits' : Amount) (inputs : KeyMap TaintSet)
    (a b : Analysis)
    (hsymbolic : frame.analyze visits (frame.function.symbolicInputs frame.globals) = .ok a)
    (hconcrete : frame.analyze visits' inputs = .ok b)
    (hmarkers : ∀ i, frame.CalleesMake i → i.symbols = ∅) (i : Identity)
    (horigin : frame.CalleesMake i → i.origins ≠ ∅) :
    (b.exit.Carries (.text returnSlot) i ↔
      (Summary.ofAnalysis frame.function a).Predicts (frame.Given inputs) returnSlot i) ∧
    (∀ o ∈ Summary.outputs frame.function a,
      (b.exit.Carries (.text o.slot) i ∨ (inputs.getD (.text o.slot) ∅).has i = true) ↔
        ((Summary.ofAnalysis frame.function a).Predicts (frame.Given inputs) o.marker i ∨
          (inputs.getD (.text o.slot) ∅).has i = true)) ∧
    ∀ n s key output,
      (∀ m x, frame.function.Marks frame.globals m x →
        ((n.passedTaint s m).has i = true ↔ (inputs.getD x ∅).has i = true)) →
      (((((Summary.ofAnalysis frame.function a).toEffect.outputs n s key).lookup
          (.text output)).getD ∅).has i = true ↔
        (Summary.ofAnalysis frame.function a).Predicts (frame.Given inputs) output i) := by
  have hreturn : ⟨returnSlot, returnSlot, none⟩ ∈ Summary.outputs frame.function a := by
    simp [Summary.outputs]
  refine ⟨⟨?_, ?_⟩, ?_, ?_⟩
  · intro hc
    rcases (carries_exit_iff_given hconcrete _ i).1 hc with hgen | ⟨y, m, hflow, hmarks, hi⟩
    · exact predicts_of_generates hsymbolic hmarkers hreturn horigin hgen
    · exact predicts_of_flows hsymbolic hmarkers hreturn hflow hmarks hmarks.input.ne_returnSlot hi
  · intro hp
    exact (carries_exit_iff_given hconcrete _ i).2 (flows_of_predicts hsymbolic hmarkers hreturn hp)
  · intro o ho
    constructor
    · rintro (hc | hi)
      · rcases (carries_exit_iff_given hconcrete _ i).1 hc with hgen | ⟨y, m, hflow, hmarks, hi⟩
        · exact Or.inl (predicts_of_generates hsymbolic hmarkers ho horigin hgen)
        · by_cases hne : m = o.marker
          · -- an output that keeps its own value has no transfer, but it was given that value
            subst hne
            obtain ⟨z, hz, hi⟩ := hi
            rw [slot_of_marks_output ho hz] at hi
            exact Or.inr hi
          · exact Or.inl (predicts_of_flows hsymbolic hmarkers ho hflow hmarks hne hi)
      · exact Or.inr hi
    · rintro (hp | hi)
      · exact Or.inl ((carries_exit_iff_given hconcrete _ i).2
          (flows_of_predicts hsymbolic hmarkers ho hp))
      · exact Or.inr hi
  · intro n s key output hpassed
    rw [Effect.has_outputs_iff_predicts]
    refine or_congr_right (exists_congr fun m => exists_congr fun mark => and_congr_right fun ht => ?_)
    obtain ⟨o, -, -, y, -, hmarks⟩ := flows_of_mem_transfers hsymbolic hmarkers ht
    refine (hpassed m y hmarks).trans ⟨fun hi => ⟨y, hmarks, hi⟩, ?_⟩
    rintro ⟨z, hz, hi⟩
    rw [hmarks.slot_eq hz]
    exact hi

end Frame

def headerIdentity : Identity := ⟨.singleton .header, none, ∅⟩

def headerInput : KeyMap TaintSet :=
  OrderedMap.empty.set (.text "x") (.of (.source .header "f::param:0" none))

/-- The collecting loop returns the label that it is given in `x`; its summary has it as what the
parameter brings. -/
theorem predicts_collector : ∃ a b,
    collector.analyze (.whole 5) (collector.function.symbolicInputs ∅) = .ok a ∧
      collector.analyze (.whole 5) headerInput = .ok b ∧
      (Summary.ofAnalysis collector.function a).Predicts (collector.Given headerInput) returnSlot
        headerIdentity := by
  obtain ⟨a, ha, -⟩ := Result.exists_ok_of_any
    (r := collector.analyze (.whole 5) (collector.function.symbolicInputs ∅)) (p := fun _ => true)
    (by decide +kernel)
  obtain ⟨b, hb, hfound⟩ := Result.exists_ok_of_any
    (r := collector.analyze (.whole 5) headerInput)
    (p := fun b => (b.exit.taintOf (some (.text returnSlot))).has headerIdentity) (by decide +kernel)
  have hnone : ∀ i, ¬ collector.CalleesMake i := by
    rintro i ⟨callee, effect, output, he, -⟩
    cases he
  have hexact := collector.summary_exact _ _ headerInput a b ha hb
    (fun i hi => (hnone i hi).elim) headerIdentity (fun hi => (hnone _ hi).elim)
  exact ⟨a, b, ha, hb, hexact.1.1 hfound⟩

/-- Returns what `h` makes.  The table says that `h` makes a label that has neither an origin nor a
marker. -/
def relay : Frame where
  function := .bare "g" "call" []
    [("call", { Node.bare .call ["end"] with callee := .text "h", target := .text "r" }),
      ("end", { Node.bare .ret [] with operands := ["r"] })]
  rules := .empty ∅
  effects id := if id = "h" then
      some ⟨∅, OrderedMap.empty.set returnSlot (.of ⟨⟨∅, none, ∅⟩, [⟨"h::n", false⟩]⟩), ∅, false⟩
    else none
  globals := ∅
  known := .ofList ["g", "h"]

/-- **Without an origin a label of a called function is lost**: `relay` returns it on every inputs, but
its summary does not say so. -/
theorem not_predicts_relay : relay.function.isValid relay.known = true ∧
    (∀ i, relay.CalleesMake i → i.symbols = ∅) ∧ ∃ a b,
      relay.analyze (.whole 5) (relay.function.symbolicInputs relay.globals) = .ok a ∧
      relay.analyze (.whole 5) ∅ = .ok b ∧
      b.exit.Carries (.text returnSlot) ⟨∅, none, ∅⟩ ∧
      ¬ (Summary.ofAnalysis relay.function a).Predicts (relay.Given ∅) returnSlot ⟨∅, none, ∅⟩ := by
  refine ⟨by decide +kernel, ?_, ?_⟩
  · rintro i ⟨callee, effect, output, he, hi⟩
    simp only [relay] at he
    split at he
    · cases he
      obtain ⟨taint, ht, hi⟩ := OrderedMap.has_getD_iff.1 hi
      rw [OrderedMap.get?_set] at ht
      split at ht
      · cases ht
        rw [TaintSet.has_of.1 hi]
        rfl
      · cases ht
    · cases he
  · obtain ⟨a, ha, hlost⟩ := Result.exists_ok_of_any
      (r := relay.analyze (.whole 5) (relay.function.symbolicInputs relay.globals))
      (p := fun a => (Summary.ofAnalysis relay.function a).transfers.isEmpty &&
        ((Summary.ofAnalysis relay.function a).generated.getD returnSlot ∅).isEmpty)
      (by decide +kernel)
    obtain ⟨b, hb, hfound⟩ := Result.exists_ok_of_any (r := relay.analyze (.whole 5) ∅)
      (p := fun b => (b.exit.taintOf (some (.text returnSlot))).has ⟨∅, none, ∅⟩)
      (by decide +kernel)
    rw [Bool.and_eq_true] at hlost
    refine ⟨a, b, ha, hb, hfound, ?_⟩
    rintro (hi | ⟨m, mark, ht, -⟩)
    · rw [TaintSet.isEmpty_iff.1 hlost.2] at hi
      cases hi
    · exact OrderedSet.isEmpty_iff.1 hlost.1 _ ht

end TaintFlow
