import TaintFlow.Concrete
import TaintFlow.Proofs.Summary.Reorder

/-!
# The concrete pass over functions in another order

The entry functions are taken in the order of their ids, and every further one in the order in which calls
reach it.  So the pass goes through the same states, whatever the order in which the functions are listed
(`Program.Reordered.run_eq`).
-/

namespace TaintFlow.Program.Reordered

variable {q : Program} {p : ConcretePass}

theorem inOrder_perm {names names' : List String} (h : names.Perm names') :
    ConcretePass.inOrder names = ConcretePass.inOrder names' :=
  congrArg OrderedSet.toList (OrderedSet.ofList_perm h)

theorem ids_perm (h : p.program.Reordered q) (keep : String × Function → Bool) :
    ((q.functions.entries.filter keep).map Prod.fst).Perm
      ((p.program.functions.entries.filter keep).map Prod.fst) :=
  (h.entries_perm.filter keep).map Prod.fst

theorem entries_eq (h : p.program.Reordered q) :
    ({ p with program := q } : ConcretePass).entries = p.entries := by
  have husable : ({ p with program := q } : ConcretePass).isUsable = p.isUsable := rfl
  have hnames := fun keep => inOrder_perm (h.ids_perm keep)
  have hmem := fun keep (id : String) => (h.ids_perm keep).mem_iff (a := id)
  unfold ConcretePass.entries
  simp only [husable, List.filter_filter, hnames, hmem]

theorem inputs_eq (h : p.program.Reordered q) :
    ({ p with program := q } : ConcretePass).inputs = p.inputs := by
  funext c f
  unfold ConcretePass.inputs
  simp only [h.globals]

theorem frame_eq (h : p.program.Reordered q) :
    ({ p with program := q } : ConcretePass).frame = p.frame := by
  funext f
  unfold ConcretePass.frame
  simp only [h.globals, h.functionIds_eq]

theorem record_eq (h : p.program.Reordered q) :
    ({ p with program := q } : ConcretePass).record = p.record := by
  have hpass : ({ p with program := q } : ConcretePass).passCall = p.passCall := by
    funext step call
    unfold ConcretePass.passCall
    simp only [h.get?_functions]
    rfl
  funext c id a
  unfold ConcretePass.record
  simp only [hpass]

theorem runOne_eq (h : p.program.Reordered q) :
    ({ p with program := q } : ConcretePass).runOne = p.runOne := by
  funext c id
  unfold ConcretePass.runOne
  simp only [h.get?_functions, h.frame_eq, h.inputs_eq, h.record_eq]

theorem loop_eq (h : p.program.Reordered q) (fuel : Nat) (c : ConcreteState) (allowance : Allowance) :
    ({ p with program := q } : ConcretePass).loop fuel c allowance = p.loop fuel c allowance := by
  induction fuel generalizing c allowance with
  | zero => rfl
  | succ fuel ih =>
    unfold ConcretePass.loop
    simp only [h.runOne_eq, ih]

/-- **The order in which the functions are listed is irrelevant** for what the pass finds. -/
theorem run_eq (h : p.program.Reordered q) (allowance : Allowance) :
    ({ p with program := q } : ConcretePass).run allowance = p.run allowance := by
  have hsize : q.functions.size = p.program.functions.size := h.entries_perm.length_eq
  unfold ConcretePass.run ConcretePass.fuel
  simp only [h.loop_eq, h.entries_eq, hsize]
  rfl

end TaintFlow.Program.Reordered
