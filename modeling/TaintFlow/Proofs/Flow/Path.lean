import TaintFlow.Flow.Analysis
import TaintFlow.Proofs.Flow.Wiring

/-!
# Paths of control

A path leads from the entry of a function over successors to a node.  `Frame.along` composes the
transfers of the nodes that it passes.  Since every transfer is its wiring, so is the composition:
`carries_along_iff` says which labels a path carries from the slots before it into a slot after it, and
which it makes on the way, without mentioning the states in between.
-/

namespace TaintFlow

/-- Control can go from the entry through the given nodes, one after the other, to a node. -/
inductive Function.Path (f : Function) : List String → String → Prop
  | entry : f.Path [] f.entry
  | step {ids : List String} {id succ : String} {n : Node} (prior : f.Path ids id)
      (hnode : f.node? id = some n) (hsucc : succ ∈ n.succ) : f.Path (ids ++ [id]) succ

def Function.Reaches (f : Function) (id : String) : Prop := ∃ ids, f.Path ids id

namespace Frame

/-- The state after the node with an id; an id without a node changes nothing. -/
def pass (frame : Frame) (s : State) (id : String) : State :=
  match frame.function.node? id with
  | some n => frame.transfer id n s
  | none => s

/-- The state after some nodes, one after the other. -/
def along (frame : Frame) (s : State) (ids : List String) : State := ids.foldl frame.pass s

def wiringAt (frame : Frame) (id : String) : Wiring :=
  match frame.function.node? id with
  | some n => frame.wiring n
  | none => .idle

theorem pass_of_node {frame : Frame} {id : String} {n : Node} (h : frame.function.node? id = some n)
    (s : State) : frame.pass s id = frame.transfer id n s := by
  rw [pass, h]

@[simp] theorem along_nil (frame : Frame) (s : State) : frame.along s [] = s := rfl

@[simp] theorem along_concat (frame : Frame) (s : State) (ids : List String) (id : String) :
    frame.along s (ids ++ [id]) = frame.pass (frame.along s ids) id := by
  rw [along, List.foldl_append]
  rfl

theorem describes_pass (frame : Frame) (id : String) :
    (frame.wiringAt id).Describes (frame.function.key id) (fun s => frame.pass s id) := by
  unfold wiringAt pass
  cases frame.function.node? id with
  | none => exact Wiring.describes_idle _
  | some n => exact frame.describes_transfer id n

/-! ### What a path does to labels -/

/-- The labels of the first slot before the nodes stand in the second one after them. -/
def Moves (frame : Frame) : List String → Slot → Slot → Prop
  | [], y, x => y = x
  | id :: rest, y, x => ∃ z, (frame.wiringAt id).moves y z ∧ frame.Moves rest z x

/-- One of the nodes makes the label, and it stands in the slot after all of them. -/
def Makes (frame : Frame) : List String → Slot → Identity → Prop
  | [], _, _ => False
  | id :: rest, x, i =>
    (∃ z, (frame.wiringAt id).makes z i ∧ frame.Moves rest z x) ∨ frame.Makes rest x i

/-- **A path is linear in the labels that enter it.** -/
theorem carries_along_iff (frame : Frame) (ids : List String) (s : State) (x : Slot)
    (i : Identity) : (frame.along s ids).Carries x i ↔
      frame.Makes ids x i ∨ ∃ y, frame.Moves ids y x ∧ s.Carries y i := by
  induction ids generalizing s with
  | nil => simp [Makes, Moves]
  | cons id rest ih =>
    have hcons : frame.along s (id :: rest) = frame.along (frame.pass s id) rest := rfl
    rw [hcons, ih]
    simp only [(frame.describes_pass id).carries_iff, Makes, Moves]
    constructor
    · rintro (hm | ⟨z, hz, hmake | ⟨y, hy, hc⟩⟩)
      · exact Or.inl (Or.inr hm)
      · exact Or.inl (Or.inl ⟨z, hmake, hz⟩)
      · exact Or.inr ⟨y, ⟨z, hy, hz⟩, hc⟩
    · rintro ((⟨z, hmake, hz⟩ | hm) | ⟨y, ⟨z, hy, hz⟩, hc⟩)
      · exact Or.inr ⟨z, hz, Or.inl hmake⟩
      · exact Or.inl hm
      · exact Or.inr ⟨z, hz, Or.inr ⟨y, hy, hc⟩⟩

theorem exists_makes_of_makes {frame : Frame} {ids : List String} {x : Slot} {i : Identity}
    (h : frame.Makes ids x i) : ∃ id ∈ ids, ∃ z, (frame.wiringAt id).makes z i := by
  induction ids with
  | nil => exact h.elim
  | cons id rest ih =>
    rcases h with ⟨z, hz, -⟩ | h
    · exact ⟨id, List.mem_cons_self, z, hz⟩
    · obtain ⟨other, hmem, hz⟩ := ih h
      exact ⟨other, List.mem_cons_of_mem id hmem, hz⟩

end Frame

end TaintFlow
