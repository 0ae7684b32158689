import Mathlib.Data.List.Basic
import TaintFlow.Flow.Analysis

/-!
# What an analysis knows of other functions

Of all that an analysis could look up beside its function, it uses the effects of the functions that are
called, which functions these are, and which of the globals the function mentions and the called functions
write (`analyze_within`).
-/

namespace TaintFlow

/-- Of the globals that the effect writes, two sets contain the same. -/
def Effect.SameGlobals (e : Effect) (globals globals' : Names) : Prop :=
  ∀ output ∈ e.exitDefs.keys, ∀ name, globalOfMarker? output = some name →
    (name ∈ globals' ↔ name ∈ globals)

theorem Effect.sameGlobals_refl (e : Effect) (globals : Names) : e.SameGlobals globals globals :=
  fun _ _ _ _ => Iff.rfl

theorem Effect.apply_congr {e : Effect} {globals globals' : Names} (h : e.SameGlobals globals globals')
    (n : Node) (s : State) (key : String) : e.apply globals' n s key = e.apply globals n s key := by
  refine List.foldl_ext _ _ _ fun s output houtput => ?_
  cases hname : globalOfMarker? output with
  | none => rfl
  | some name => simp only [h output houtput name hname]

namespace Frame

variable {frame : Frame} {effects : String → Option Effect} {globals known : Names}

def withEffects (frame : Frame) (effects : String → Option Effect) : Frame :=
  { frame with effects := effects }

def within (frame : Frame) (effects : String → Option Effect) (globals known : Names) : Frame :=
  { frame with effects := effects, globals := globals, known := known }

/-- The other program resolves a call to the same function, which has the same effect there. -/
def AgreesAt (frame : Frame) (effects : String → Option Effect) (globals known : Names) (n : Node) :
    Prop :=
  n.kind = .call → (frame.within effects globals known).calleeOf n = frame.calleeOf n ∧
    ∀ callee, frame.calleeOf n = some callee → effects callee = frame.effects callee ∧
      ∀ e, frame.effects callee = some e → e.SameGlobals frame.globals globals

theorem role_within {n : Node} (h : frame.AgreesAt effects globals known n) (hkind : n.kind = .call) :
    (frame.within effects globals known).role n = frame.role n := by
  obtain ⟨hcallee, heffects⟩ := h hkind
  unfold role
  rw [hcallee]
  cases hc : frame.calleeOf n with
  | none => rfl
  | some callee =>
    have heffect : (frame.within effects globals known).effects callee = frame.effects callee :=
      (heffects callee hc).1
    simp only [heffect]
    rfl

/-- The effect with which a call is resolved is that of the called function. -/
theorem effect_of_role {n : Node} {callee : String} {effect : Effect}
    (h : frame.role n = .resolved callee effect) :
    frame.calleeOf n = some callee ∧ effect = (frame.effects callee).getD .pending := by
  unfold role at h
  split at h
  · cases h
  · split at h
    · cases h
    · split at h
      · cases h
      · next found hfound =>
        dsimp only at h
        split at h
        · cases h
        · cases h
          exact ⟨hfound, rfl⟩

theorem sameGlobals_of_role {n : Node} (h : frame.AgreesAt effects globals known n)
    (hkind : n.kind = .call) {callee : String} {effect : Effect}
    (hrole : frame.role n = .resolved callee effect) : effect.SameGlobals frame.globals globals := by
  obtain ⟨hcallee, rfl⟩ := effect_of_role hrole
  cases heffect : frame.effects callee with
  | none => exact fun output houtput => absurd houtput List.not_mem_nil
  | some e => exact ((h hkind).2 callee hcallee).2 e heffect

theorem transfer_within {n : Node} (h : frame.AgreesAt effects globals known n) (id : String)
    (s : State) : (frame.within effects globals known).transfer id n s = frame.transfer id n s := by
  unfold transfer
  cases hkind : n.kind with
  | call =>
    simp only [transferCall, role_within h hkind]
    cases hrole : frame.role n with
    | resolved callee effect => exact Effect.apply_congr (sameGlobals_of_role h hkind hrole) n s _
    | _ => rfl
  | _ => rfl

theorem fault?_within {n : Node} (h : frame.AgreesAt effects globals known n) (id : String)
    (s : State) : (frame.within effects globals known).fault? id n s = frame.fault? id n s := by
  unfold fault?
  cases hkind : n.kind with
  | call =>
    simp only [callFault?, role_within h hkind]
    rfl
  | _ => rfl

theorem observe_within {n : Node} (h : frame.AgreesAt effects globals known n) (id : String)
    (s : State) (o : Observations) :
    (frame.within effects globals known).observe id n s o = frame.observe id n s o := by
  unfold observe
  cases hkind : n.kind with
  | call =>
    simp only [observeCall, role_within h hkind]
    rfl
  | _ => rfl

theorem visit_within {n : Node} (h : frame.AgreesAt effects globals known n) (id : String)
    (p : Progress) : (frame.within effects globals known).visit p id n = frame.visit p id n := by
  simp only [visit, transfer_within h, observe_within h]

theorem loop_within
    (h : ∀ id n, frame.function.node? id = some n → frame.AgreesAt effects globals known n)
    (budget : Amount) (fuel : Nat) (p : Progress) :
    (frame.within effects globals known).loop budget fuel p = frame.loop budget fuel p := by
  induction fuel generalizing p with
  | zero =>
    unfold loop
    cases p.queue <;> rfl
  | succ fuel ih =>
    unfold loop
    cases p.queue with
    | nil => rfl
    | cons id queue =>
      dsimp only
      have hnode : (frame.within effects globals known).function.node? id =
          frame.function.node? id := rfl
      rw [hnode]
      cases hn : frame.function.node? id with
      | none => rfl
      | some n =>
        dsimp only
        rw [fault?_within (h id n hn)]
        cases frame.fault? id n (p.before.getD id .empty) with
        | some fault => rfl
        | none =>
          dsimp only
          rw [visit_within (h id n hn)]
          exact ih _

/-- **An analysis depends on the called functions only**, and on the globals that are mentioned and
written. -/
theorem analyze_within
    (h : ∀ id n, frame.function.node? id = some n → frame.AgreesAt effects globals known n)
    (hglobals : frame.function.globalsIn globals = frame.function.globalsIn frame.globals)
    (maxVisits : Amount) (inputs : KeyMap TaintSet) :
    (frame.within effects globals known).analyze maxVisits inputs = frame.analyze maxVisits inputs := by
  have hread : (frame.within effects globals known).globalsRead = frame.globalsRead := hglobals
  have hstart : (frame.within effects globals known).start inputs = frame.start inputs := by
    simp only [start, entryState, hread]
    rfl
  have hfinish : ∀ p, (frame.within effects globals known).finish p = frame.finish p := by
    intro p
    simp only [finish, globalEdges, hread]
    rfl
  have hbudget : (frame.within effects globals known).budget maxVisits = frame.budget maxVisits := rfl
  have hfunction : (frame.within effects globals known).function = frame.function := rfl
  unfold analyze
  simp only [hfunction, hbudget, hstart, loop_within h, hfinish]

end Frame

end TaintFlow
