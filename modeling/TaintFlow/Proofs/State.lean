import TaintFlow.Flow.State
import TaintFlow.Proofs.TaintSet

/-!
# What a state says of a slot

A state is read through two relations: a slot carries a label identity, and a slot is defined by a key.
One state is within another when the other says everything that it says.

* `carries_assign`, `carries_weakAssign`, `carries_join` and their counterparts for definitions: what
  each operation does to the two relations.  The taint and the definitions of a state are joined in the same
  way, so this is shown once for both (`Half`).
-/

namespace TaintFlow

namespace OrderedMap

variable {κ : Type} [Ord κ] [DecidableEq κ]

theorem has_getD_iff {m : OrderedMap κ TaintSet} {key : κ} {i : Identity} :
    (m.getD key ∅).has i = true ↔ ∃ taint, m.get? key = some taint ∧ taint.has i = true := by
  cases h : m.get? key <;> simp [getD, h]

theorem mem_getD_iff {m : OrderedMap κ Names} {key : κ} {d : String} :
    d ∈ m.getD key ∅ ↔ ∃ defs, m.get? key = some defs ∧ d ∈ defs := by
  cases h : m.get? key <;> simp [getD, h]

end OrderedMap

/-- What the first table gives a slot, the second one gives it too. -/
def TaintsWithin (m n : KeyMap TaintSet) : Prop :=
  ∀ x i, (m.getD x ∅).has i = true → (n.getD x ∅).has i = true

namespace State

/-- Some label of the slot has the identity. -/
def Carries (s : State) (x : Key) (i : Identity) : Prop := (s.taintOf (some x)).has i = true

/-- The key is among the definitions that reach the slot. -/
def DefinedBy (s : State) (x : Key) (d : String) : Prop := d ∈ s.defsOf (some x)

/-- Everything that `s` says of a slot, `t` says too. -/
def Within (s t : State) : Prop :=
  (∀ x i, s.Carries x i → t.Carries x i) ∧ ∀ x d, s.DefinedBy x d → t.DefinedBy x d

theorem Within.refl (s : State) : s.Within s := ⟨fun _ _ h => h, fun _ _ h => h⟩

theorem Within.trans {s t u : State} (h : s.Within t) (g : t.Within u) : s.Within u :=
  ⟨fun x i hs => g.1 x i (h.1 x i hs), fun x d hs => g.2 x d (h.2 x d hs)⟩

@[simp] theorem not_carries_empty (x : Key) (i : Identity) : ¬ empty.Carries x i := by
  intro h
  cases h

@[simp] theorem not_definedBy_empty (x : Key) (d : String) : ¬ empty.DefinedBy x d := by
  intro h
  cases h

theorem has_taintOf_iff {s : State} {slot : Option Key} {i : Identity} :
    (s.taintOf slot).has i = true ↔ ∃ x, slot = some x ∧ s.Carries x i := by
  cases slot with
  | none => simp [taintOf]
  | some x => simp [Carries]

/-! ### Writing to a slot -/

theorem carries_assign {s : State} {x y : Key} {taint : TaintSet} {d : String} {i : Identity} :
    (s.assign x taint d).Carries y i ↔ if y = x then taint.has i = true else s.Carries y i := by
  simp only [Carries, taintOf, assign]
  rw [OrderedMap.getD_set]
  by_cases h : y = x <;> simp [h]

theorem definedBy_assign {s : State} {x y : Key} {taint : TaintSet} {d e : String} :
    (s.assign x taint d).DefinedBy y e ↔ if y = x then e = d else s.DefinedBy y e := by
  simp only [DefinedBy, defsOf, assign]
  rw [OrderedMap.getD_set]
  by_cases h : y = x <;> simp [h]

theorem carries_weakAssign {s : State} {x y : Key} {taint : TaintSet} {d : String} {i : Identity} :
    (s.weakAssign x taint d).Carries y i ↔ s.Carries y i ∨ (y = x ∧ taint.has i = true) := by
  simp only [Carries, taintOf, weakAssign]
  rw [OrderedMap.getD_set]
  by_cases h : y = x <;> simp [h]

theorem definedBy_weakAssign {s : State} {x y : Key} {taint : TaintSet} {d e : String} :
    (s.weakAssign x taint d).DefinedBy y e ↔ s.DefinedBy y e ∨ (y = x ∧ e = d) := by
  simp only [DefinedBy, defsOf, weakAssign]
  rw [OrderedMap.getD_set]
  by_cases h : y = x
  · simp [h, or_comm]
  · simp [h]

theorem carries_addDefinition {s : State} {x y : Key} {d : String} {i : Identity} :
    (s.addDefinition x d).Carries y i ↔ s.Carries y i := Iff.rfl

theorem definedBy_addDefinition {s : State} {x y : Key} {d e : String} :
    (s.addDefinition x d).DefinedBy y e ↔ s.DefinedBy y e ∨ (y = x ∧ e = d) := by
  simp only [DefinedBy, defsOf, addDefinition]
  rw [OrderedMap.getD_set]
  by_cases h : y = x
  · simp [h, or_comm]
  · simp [h]

end State

/-! ### One half of a state -/

/-- One half of a state: a map of slots whose values hold elements and can be compared and united. -/
structure Half (α ε : Type) where
  get : State → KeyMap α
  put : State → KeyMap α → State
  holds : α → ε → Prop
  isSubset : α → α → Bool
  union : α → α → α
  get_put : ∀ s m, get (put s m) = m
  put_get : ∀ s, put s (get s) = s
  put_put : ∀ s m n, put (put s m) n = put s n
  isSubset_iff : ∀ {a b}, isSubset a b = true ↔ ∀ e, holds a e → holds b e
  holds_union : ∀ {a b e}, holds (union a b) e ↔ holds a e ∨ holds b e

namespace Half

def taint : Half TaintSet Identity where
  get := State.taint
  put s m := { s with taint := m }
  holds taint i := taint.has i = true
  isSubset := TaintSet.isSubset
  union := (· ∪ ·)
  get_put _ _ := rfl
  put_get _ := rfl
  put_put _ _ _ := rfl
  isSubset_iff := TaintSet.isSubset_iff
  holds_union := TaintSet.has_union

def defs : Half Names String where
  get := State.defs
  put s m := { s with defs := m }
  holds defs d := d ∈ defs
  isSubset := OrderedSet.isSubset
  union := (· ∪ ·)
  get_put _ _ := rfl
  put_get _ := rfl
  put_put _ _ _ := rfl
  isSubset_iff := OrderedSet.isSubset_iff
  holds_union := OrderedSet.mem_union

variable {α ε : Type} (half : Half α ε)

def Has (m : KeyMap α) (x : Key) (e : ε) : Prop := ∃ value, m.get? x = some value ∧ half.holds value e

/-- The map after a slot of it took in a value, if the slot gains something. -/
def gain? (m : KeyMap α) (entry : Key × α) : Option (KeyMap α) :=
  match m.get? entry.1 with
  | none => some (m.set entry.1 entry.2)
  | some current =>
    if half.isSubset entry.2 current then none else some (m.set entry.1 (half.union current entry.2))

/-- The map after a slot of it took in a value. -/
def joinEntry (m : KeyMap α) (entry : Key × α) : KeyMap α := (half.gain? m entry).getD m

variable {half} {m : KeyMap α} {entry : Key × α} {l : List (Key × α)} {x : Key} {e : ε}

theorem joinEntry_eq (m : KeyMap α) (entry : Key × α) : half.joinEntry m entry =
    match m.get? entry.1 with
    | none => m.set entry.1 entry.2
    | some current =>
      if half.isSubset entry.2 current then m else m.set entry.1 (half.union current entry.2) := by
  rw [joinEntry, gain?]
  cases m.get? entry.1 with
  | none => rfl
  | some current =>
    dsimp only
    cases half.isSubset entry.2 current <;> rfl

theorem has_iff_entry : half.Has m x e ↔ ∃ entry ∈ m.entries, entry.1 = x ∧ half.holds entry.2 e := by
  constructor
  · rintro ⟨value, h, he⟩
    exact ⟨(x, value), OrderedMap.mem_entries_iff.2 h, rfl, he⟩
  · rintro ⟨⟨y, value⟩, h, rfl, he⟩
    exact ⟨value, OrderedMap.mem_entries_iff.1 h, he⟩

theorem has_set {y : Key} {value : α} :
    half.Has (m.set y value) x e ↔ if x = y then half.holds value e else half.Has m x e := by
  unfold Has
  rw [OrderedMap.get?_set]
  by_cases h : x = y <;> simp [h]

theorem has_joinEntry : half.Has (half.joinEntry m entry) x e ↔
    half.Has m x e ∨ (entry.1 = x ∧ half.holds entry.2 e) := by
  obtain ⟨y, value⟩ := entry
  rw [joinEntry_eq]
  dsimp only
  cases h : m.get? y with
  | none =>
    rw [has_set]
    by_cases he : x = y
    · subst he
      simp [Has, h]
    · simp [he, Ne.symm he]
  | some current =>
    dsimp only
    split
    · next hsub =>
      refine ⟨Or.inl, fun hor => hor.elim id ?_⟩
      rintro ⟨rfl, he⟩
      exact ⟨current, h, half.isSubset_iff.1 hsub e he⟩
    · rw [has_set]
      by_cases he : x = y
      · subst he
        simp [Has, h, half.holds_union]
      · simp [he, Ne.symm he]

theorem has_foldl_joinEntry : half.Has (l.foldl half.joinEntry m) x e ↔
    half.Has m x e ∨ ∃ entry ∈ l, entry.1 = x ∧ half.holds entry.2 e := by
  induction l generalizing m with
  | nil => simp
  | cons entry rest ih =>
    rw [List.foldl_cons, ih, has_joinEntry, List.exists_mem_cons_iff, or_assoc]

end Half

namespace State

/-! ### Joining states -/

theorem joinTaint_eq (m : KeyMap TaintSet) (entry : Key × TaintSet) :
    joinTaint m entry = Half.taint.joinEntry m entry := by
  rw [joinTaint, Half.joinEntry_eq]
  cases m.get? entry.1 <;> rfl

theorem joinDefs_eq (m : KeyMap Names) (entry : Key × Names) :
    joinDefs m entry = Half.defs.joinEntry m entry := by
  rw [joinDefs, Half.joinEntry_eq]
  cases m.get? entry.1 <;> rfl

theorem taint_join (s t : State) : (s.join t).taint = t.taint.entries.foldl Half.taint.joinEntry s.taint := by
  have hstep : joinTaint = Half.taint.joinEntry := funext₂ joinTaint_eq
  rw [join, hstep]

theorem defs_join (s t : State) : (s.join t).defs = t.defs.entries.foldl Half.defs.joinEntry s.defs := by
  have hstep : joinDefs = Half.defs.joinEntry := funext₂ joinDefs_eq
  rw [join, hstep]

theorem carries_iff {s : State} {x : Key} {i : Identity} : s.Carries x i ↔ Half.taint.Has s.taint x i :=
  OrderedMap.has_getD_iff

theorem definedBy_iff {s : State} {x : Key} {d : String} : s.DefinedBy x d ↔ Half.defs.Has s.defs x d :=
  OrderedMap.mem_getD_iff

theorem carries_iff_entry {s : State} {x : Key} {i : Identity} :
    s.Carries x i ↔ ∃ entry ∈ s.taint.entries, entry.1 = x ∧ entry.2.has i = true :=
  carries_iff.trans Half.has_iff_entry

theorem definedBy_iff_entry {s : State} {x : Key} {d : String} :
    s.DefinedBy x d ↔ ∃ entry ∈ s.defs.entries, entry.1 = x ∧ d ∈ entry.2 :=
  definedBy_iff.trans Half.has_iff_entry

theorem carries_join {s t : State} {x : Key} {i : Identity} :
    (s.join t).Carries x i ↔ s.Carries x i ∨ t.Carries x i := by
  rw [carries_iff, taint_join, Half.has_foldl_joinEntry, ← Half.has_iff_entry, ← carries_iff, ← carries_iff]

theorem definedBy_join {s t : State} {x : Key} {d : String} :
    (s.join t).DefinedBy x d ↔ s.DefinedBy x d ∨ t.DefinedBy x d := by
  rw [definedBy_iff, defs_join, Half.has_foldl_joinEntry, ← Half.has_iff_entry, ← definedBy_iff, ← definedBy_iff]

theorem within_join_left (s t : State) : s.Within (s.join t) :=
  ⟨fun _ _ h => carries_join.2 (Or.inl h), fun _ _ h => definedBy_join.2 (Or.inl h)⟩

theorem within_join_right (s t : State) : t.Within (s.join t) :=
  ⟨fun _ _ h => carries_join.2 (Or.inr h), fun _ _ h => definedBy_join.2 (Or.inr h)⟩

end State

end TaintFlow
