import TaintFlow.Proofs.Flow.Callees
import TaintFlow.Proofs.Flow.Exact
import TaintFlow.Proofs.Flow.Wiring

/-!
# Calls of functions that could not be analysed

A call of such a function hands all that it is given on to its result, together with a label of its own,
and writes nothing else.  So of what a known effect would bring into a slot (`Effect.Brings`), nothing is
missing from the result; an argument that is written to, or a global, only keeps what it held before
(`Frame.carries_degrade_iff`).
-/

namespace TaintFlow

instance (s : State) (x : Slot) (i : Identity) : Decidable (s.Carries x i) :=
  inferInstanceAs (Decidable (_ = true))

/-- A flow of the effect takes a label of the caller's state to a slot of the caller. -/
def Effect.Brings (e : Effect) (n : Node) (s : State) (x : Slot) (i : Identity) : Prop :=
  ∃ output, Lands n output x ∧ ∃ y, e.Feeds n y output ∧ s.Carries y i

theorem Effect.carries_apply_of_brings {e : Effect} {n : Node} {s : State} {x : Slot} {i : Identity}
    (h : e.Brings n s x i) (globals : Names) (key : String) : (e.apply globals n s key).Carries x i := by
  obtain ⟨output, hlands, y, hfeeds, hcarries⟩ := h
  exact carries_apply_iff.2 (Or.inr ⟨output, hlands, Or.inr ⟨y, hfeeds, hcarries⟩⟩)

namespace Frame

def degrade (frame : Frame) (callee : String) (failed : Effect) : Frame :=
  frame.withEffects (fun other => if other = callee then some failed else frame.effects other)

variable {frame : Frame} {callee : String} {e failed : Effect} {n : Node}

theorem role_of_known (heffect : frame.effects callee = some e)
    (hsource : frame.rules.source? n.api = none) (hsanitizer : frame.rules.isSanitizer n.api = false)
    (hcallee : frame.calleeOf n = some callee) :
    frame.role n = if e.unknown then .degraded else .resolved callee e := by
  unfold role
  rw [hsource, hsanitizer, hcallee]
  simp only [heffect]
  rfl

theorem role_degrade (hsource : frame.rules.source? n.api = none)
    (hsanitizer : frame.rules.isSanitizer n.api = false) (hcallee : frame.calleeOf n = some callee)
    (hfailed : failed.unknown = true) : (frame.degrade callee failed).role n = .degraded := by
  have heffect : (frame.degrade callee failed).effects callee = some failed := if_pos rfl
  rw [role_of_known heffect hsource hsanitizer hcallee, hfailed]
  rfl

/-- What a call of a function that could not be analysed leaves in a slot. -/
theorem carries_transfer_of_degraded (hkind : n.kind = .call) (hrole : frame.role n = .degraded)
    {id : String} {s : State} {x : Slot} {i : Identity} : (frame.transfer id n s).Carries x i ↔
      if n.targetSlot? = some x then
        i = ⟨.singleton .unknownExternal, none, ∅⟩ ∨ ∃ y ∈ n.passedSlots, s.Carries y i
      else s.Carries x i := by
  have hwiring : frame.wiring n = .result n.targetSlot? n.passedSlots
      (fun i => i = ⟨.singleton .unknownExternal, none, ∅⟩) := by
    unfold wiring callWiring
    rw [hkind, hrole]
  rw [(frame.describes_transfer id n).carries_iff, hwiring]
  unfold Wiring.result
  cases htarget : n.targetSlot? with
  | none => simp [Wiring.idle]
  | some target =>
    by_cases hx : x = target
    · simp [Wiring.overwrite, hx]
    · simp [Wiring.overwrite, hx, Ne.symm hx]

/-- A call that can be made when the function is known can be made when it is not. -/
theorem fault?_degrade (hkind : n.kind = .call) (hcallee : frame.calleeOf n = some callee)
    (hrole : (frame.degrade callee failed).role n = .degraded) {id : String} {s : State}
    (hfault : frame.fault? id n s = none) : (frame.degrade callee failed).fault? id n s = none := by
  have hname : n.api.isName = true := by
    unfold fault? callFault? at hfault
    rw [hkind] at hfault
    by_contra hname
    rw [Bool.not_eq_true] at hname
    simp [hname] at hfault
  have hkey : n.callee.key?.isNone = false := by
    unfold calleeOf at hcallee
    split at hcallee
    · next name hname =>
      rw [hname]
      rfl
    · cases hcallee
  unfold fault? callFault?
  rw [hkind, hrole]
  simp [hname, hkey]

/-- **A degraded callee keeps what a known one brings into the result**, and of what the known one brings
into any other slot it keeps what was there before.  This holds at every call that is resolved to a function
of the program, of every label that an argument or the receiver holds. -/
theorem carries_degrade_iff (frame : Frame) (callee : String) (e failed : Effect) (id : String) (n : Node)
    (s : State) (hkind : n.kind = .call) (hsource : frame.rules.source? n.api = none)
    (hsanitizer : frame.rules.isSanitizer n.api = false) (hcallee : frame.calleeOf n = some callee)
    (heffect : frame.effects callee = some e) (hknown : e.unknown = false)
    (hfailed : failed.unknown = true) (hfault : frame.fault? id n s = none) :
    (frame.degrade callee failed).fault? id n s = none ∧
    ∀ x i, (∃ y ∈ n.passedSlots, s.Carries y i) → e.Brings n s x i →
      (frame.transfer id n s).Carries x i ∧
      (((frame.degrade callee failed).transfer id n s).Carries x i ↔
        n.targetSlot? = some x ∨ s.Carries x i) := by
  have hrole : frame.role n = .resolved callee e := by
    rw [role_of_known heffect hsource hsanitizer hcallee, hknown]
    rfl
  have hdegraded := role_degrade hsource hsanitizer hcallee hfailed
  refine ⟨fault?_degrade hkind hcallee hdegraded hfault, fun x i hheld hbrings => ⟨?_, ?_⟩⟩
  · have happly : frame.transfer id n s = e.apply frame.globals n s (frame.function.key id) := by
      unfold transfer transferCall
      rw [hkind, hrole]
    rw [happly]
    exact Effect.carries_apply_of_brings hbrings _ _
  · rw [carries_transfer_of_degraded hkind hdegraded]
    by_cases htarget : n.targetSlot? = some x
    · simp [htarget, hheld]
    · simp [htarget]

end Frame

/-! ### A function that spills what it is given -/

/-- The effect of a function that copies its first argument into its second one and into the global `G`,
and returns its receiver. -/
def spillEffect : Effect where
  transfers := .ofList [⟨.text (paramMarker 0), .text (paramMarker 1), false⟩,
    ⟨.text (paramMarker 0), .text (globalMarker "G"), false⟩,
    ⟨.text receiverMarker, .text returnSlot, false⟩]
  generated := ∅
  exitDefs := ∅
  unknown := false

def spillCall (receiver : String) : Node :=
  { Node.bare .call ["end"] with
    callee := .text "spill", args := [some "x", some "buf"], receiver := .text receiver,
    target := .text "y" }

/-- Calls `spill` with its parameters and returns what comes back. -/
def spilling (receiver : String) : Frame where
  function := .bare "f" "call" ["x", receiver]
    [("call", spillCall receiver), ("end", { Node.bare .ret [] with operands := ["y"] })]
  rules := .empty ∅
  effects callee := if callee = "spill" then some spillEffect else none
  globals := .ofList ["G"]
  known := .ofList ["f", "spill"]

/-- What is passed to `spill`: a request parameter as the first argument, a cookie as the receiver. -/
def spilled (receiver : String) : State where
  taint := (OrderedMap.empty.set (.text "x") (.of (.source .networkParameter "h::get" none))).set
    (.text receiver) (.of (.source .cookie "h::read" none))
  defs := ∅

/-- The cookie comes back from `spill` whether or not it could be analysed. -/
theorem carries_degrade_spilling : ((spilling "self").degrade "spill" ⟨∅, ∅, ∅, true⟩).fault? "call"
      (spillCall "self") (spilled "self") = none ∧
    (((spilling "self").degrade "spill" ⟨∅, ∅, ∅, true⟩).transfer "call" (spillCall "self")
      (spilled "self")).Carries (.text "y") ⟨.singleton .cookie, none, ∅⟩ := by
  obtain ⟨hfault, hcarries⟩ := (spilling "self").carries_degrade_iff "spill" spillEffect ⟨∅, ∅, ∅, true⟩
    "call" (spillCall "self") (spilled "self") rfl rfl rfl (by decide +kernel) rfl rfl rfl
    (by decide +kernel)
  have hbrings : spillEffect.Brings (spillCall "self") (spilled "self") (.text "y")
      ⟨.singleton .cookie, none, ∅⟩ :=
    ⟨.text returnSlot, Or.inl ⟨rfl, rfl⟩, .text "self",
      ⟨⟨.text receiverMarker, .text returnSlot, false⟩, by decide +kernel, rfl, receiverMarker, rfl,
        by decide +kernel⟩, by decide +kernel⟩
  exact ⟨hfault, (hcarries _ _ ⟨.text "self", by decide +kernel, by decide +kernel⟩ hbrings).2.2
    (Or.inl rfl)⟩

/-- **What is spilled is lost with a callee that could not be analysed**: the request parameter that stands
in the second argument and in the global afterwards, and the cookie that a receiver with an empty name
holds. -/
theorem not_carries_degrade_spilling :
    let known := (spilling "").transfer "call" (spillCall "") (spilled "")
    let degraded := ((spilling "").degrade "spill" ⟨∅, ∅, ∅, true⟩).transfer "call" (spillCall "")
      (spilled "")
    (spilling "").role (spillCall "") = .resolved "spill" spillEffect ∧
    (spilling "").fault? "call" (spillCall "") (spilled "") = none ∧
    (spilled "").Carries (.text "x") ⟨.singleton .networkParameter, none, ∅⟩ ∧
    (∀ slot ∈ ["buf", "G"], known.Carries (.text slot) ⟨.singleton .networkParameter, none, ∅⟩ ∧
      ¬ degraded.Carries (.text slot) ⟨.singleton .networkParameter, none, ∅⟩) ∧
    (spilled "").Carries (.text "") ⟨.singleton .cookie, none, ∅⟩ ∧
    known.Carries (.text "y") ⟨.singleton .cookie, none, ∅⟩ ∧
    ¬ degraded.Carries (.text "y") ⟨.singleton .cookie, none, ∅⟩ := by
  refine ⟨rfl, ?_⟩
  decide +kernel

end TaintFlow
