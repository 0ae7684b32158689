import TaintFlow.Proofs.CallGraph.Layers
import TaintFlow.Proofs.Program.Reorder
import TaintFlow.Summary.Resolve

/-!
# Summaries of functions in another order

What a resolver does depends on which functions a program has, not on the order in which they are listed:
the call graph and the initial resolution are built by steps that can change places, and everything after
that looks functions up by their ids (`Program.Reordered.resolve_eq`).
-/

namespace TaintFlow

namespace Program.Reordered

variable {p q : Program}

theorem functionIds_eq (h : p.Reordered q) : q.functionIds = p.functionIds :=
  OrderedSet.ofList_perm ((h.entries_perm.map Prod.fst).append (h.malformed_perm.map Prod.fst))

/-! ### The call graph -/

theorem calls_perm (h : p.Reordered q) : (CallGraph.calls q).Perm (CallGraph.calls p) := by
  unfold CallGraph.calls
  rw [h.functionIds_eq]
  exact h.values_perm.flatMap_right _

theorem callGraph_eq (h : p.Reordered q) : CallGraph.ofProgram q = CallGraph.ofProgram p := by
  unfold CallGraph.ofProgram
  dsimp only
  rw [h.functionIds_eq, CallGraph.ofEdges_perm h.calls_perm, CallGraph.ofEdges_perm (h.calls_perm.map _)]

theorem isDefinedFor_eq (h : p.Reordered q) : CallGraph.isDefinedFor q = CallGraph.isDefinedFor p :=
  h.values_perm.all_eq

/-! ### The resolver -/

theorem validFunctions_eq (h : p.Reordered q) :
    Resolver.validFunctions q = Resolver.validFunctions p := by
  unfold Resolver.validFunctions
  rw [h.functionIds_eq]
  exact OrderedSet.ofList_perm ((h.entries_perm.filter _).map Prod.fst)

theorem resolver_eq (h : p.Reordered q) (rules : Registry) (limits : ResolveLimits)
    (previous : NameMap Summary) : Resolver.ofProgram q rules limits previous =
      { Resolver.ofProgram p rules limits previous with program := q } := by
  unfold Resolver.ofProgram
  rw [h.callGraph_eq, h.validFunctions_eq]

theorem fail_comm (res : Resolution) {function other : String} (h : function ≠ other)
    (hash hash' error error' : String) :
    (res.fail function hash error).fail other hash' error' =
      (res.fail other hash' error').fail function hash error := by
  unfold Resolution.fail
  simp only [OrderedMap.set_comm _ _ _ h, OrderedSet.insert_comm _ function other]

variable {r : Resolver}

theorem initial_eq (h : r.program.Reordered q) : ({ r with program := q } : Resolver).initial = r.initial := by
  unfold Resolver.initial
  simp only [h.functionIds_eq]
  rw [Table.foldl_entries_eq h.malformed_perm fun res x y hne => fail_comm res hne _ _ _ _]
  refine Table.foldl_entries_eq h.entries_perm (fun res x y hne => ?_) _
  split <;> split <;> first | rfl | exact fail_comm res hne _ _ _ _

theorem summarize_eq (h : r.program.Reordered q) (view : String → Option Summary) (f : Function) :
    ({ r with program := q } : Resolver).summarize view f = r.summarize view f := by
  unfold Resolver.summarize
  simp only [h.functionIds_eq, h.globals]

theorem refine_eq (h : r.program.Reordered q) (published : NameMap Summary) :
    ({ r with program := q } : Resolver).refine published = r.refine published := by
  funext round id
  unfold Resolver.refine
  simp only [h.get?_functions, h.summarize_eq]

theorem rounds_eq (h : r.program.Reordered q) (published : NameMap Summary) (members : List String)
    (n : Nat) (provisional : NameMap Summary) :
    ({ r with program := q } : Resolver).rounds published members n provisional =
      r.rounds published members n provisional := by
  induction n generalizing provisional with
  | zero => rfl
  | succ n ih =>
    unfold Resolver.rounds
    simp only [h.refine_eq, ih]

theorem summarizeComponent_eq (h : r.program.Reordered q) (published : NameMap Summary) :
    ({ r with program := q } : Resolver).summarizeComponent published = r.summarizeComponent published := by
  funext c
  unfold Resolver.summarizeComponent
  simp only [h.rounds_eq, h.get?_functions]

theorem reuseLayer_eq (h : r.program.Reordered q) :
    ({ r with program := q } : Resolver).reuseLayer = r.reuseLayer := by
  have hreuse : ({ r with program := q } : Resolver).canReuse = r.canReuse := by
    funext res c id
    unfold Resolver.canReuse
    simp only [h.get?_functions]
  funext res pending
  unfold Resolver.reuseLayer Resolver.reuse?
  simp only [hreuse]

/-- **The order in which the functions are listed is irrelevant** for what is published. -/
theorem resolve_eq (h : r.program.Reordered q) (allowance : Allowance) :
    ({ r with program := q } : Resolver).resolve allowance = r.resolve allowance := by
  unfold Resolver.resolve Resolver.resolveLayers Resolver.resolveLayer
  simp only [h.isDefinedFor_eq, h.initial_eq, h.reuseLayer_eq, h.summarizeComponent_eq]

end Program.Reordered

end TaintFlow
