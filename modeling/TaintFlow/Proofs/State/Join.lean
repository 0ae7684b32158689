import Mathlib.Logic.Function.Basic
import TaintFlow.Proofs.State
import TaintFlow.Proofs.TaintSet.Build

/-!
# Joining states in place

A state that is held by a variable takes in another one slot by slot, first the taint, then the definitions, and
notes whether a slot gained anything.  Whether it does is seen from this slot alone (`Half.isSome_gain?_congr`), and
the state that is taken in is not written to, even if it is held by the same variable, since nothing gains from
itself (`Half.gain?_self`).  So the loops come to the join of the states and to whether the first grows by the second
(`Store.joinInto_eq`).

The join is the least state above both (`State.join_below_iff`), and growing means that it adds something
(`State.grows_iff_adds`).
-/

namespace TaintFlow

abbrev Store := String → State

namespace Half

variable {α ε : Type} (half : Half α ε)

/-- Lets a slot of the state that is held by `a` take in what it holds in the state that is held by `b`. -/
def joinSlot (a b : String) (p : Bool × Store) (slot : Key) : Bool × Store :=
  match (half.get (p.2 b)).get? slot with
  | none => p
  | some value =>
    match half.gain? (half.get (p.2 a)) (slot, value) with
    | none => p
    | some m => (true, Function.update p.2 a (half.put (p.2 a) m))

variable {half} {m n : KeyMap α} {entry : Key × α} {l : List (Key × α)} {x : Key}

theorem gain?_self (h : m.get? entry.1 = some entry.2) : half.gain? m entry = none := by
  rw [gain?, h]
  exact if_pos (half.isSubset_iff.2 fun _ h => h)

theorem isSome_gain?_eq (m : KeyMap α) (entry : Key × α) : (half.gain? m entry).isSome =
    match m.get? entry.1 with
    | none => true
    | some current => !half.isSubset entry.2 current := by
  rw [gain?]
  cases m.get? entry.1 with
  | none => rfl
  | some current =>
    dsimp only
    cases half.isSubset entry.2 current <;> rfl

/-- A slot that gains something is new, or it did not hold some element of the value. -/
theorem exists_of_isSome_gain? (h : (half.gain? m entry).isSome = true) : m.contains entry.1 = false ∨
    ∃ e, half.holds entry.2 e ∧ ¬ half.Has m entry.1 e := by
  rw [isSome_gain?_eq] at h
  split at h
  · next hnone => exact Or.inl (by rw [OrderedMap.contains, hnone, Option.isSome_none])
  · next current hcurrent =>
    rw [Bool.not_eq_true', ← Bool.not_eq_true, half.isSubset_iff] at h
    push Not at h
    obtain ⟨e, he, hnot⟩ := h
    refine Or.inr ⟨e, he, ?_⟩
    rintro ⟨other, hother, hheld⟩
    obtain rfl : current = other := Option.some.inj (hcurrent.symm.trans hother)
    exact hnot hheld

/-- Whether a slot gains something does not depend on the other slots. -/
theorem isSome_gain?_congr (h : m.get? entry.1 = n.get? entry.1) :
    (half.gain? m entry).isSome = (half.gain? n entry).isSome := by
  rw [isSome_gain?_eq, isSome_gain?_eq, h]

theorem get?_of_gain? (h : half.gain? m entry = some n) (hx : x ≠ entry.1) : n.get? x = m.get? x := by
  rw [gain?] at h
  split at h
  · cases h
    exact m.get?_set_ne _ hx
  · split at h
    · cases h
    · cases h
      exact m.get?_set_ne _ hx

theorem foldl_joinEntry_of_forall (h : ∀ entry ∈ l, half.gain? m entry = none) : l.foldl half.joinEntry m = m := by
  induction l with
  | nil => rfl
  | cons entry rest ih =>
    obtain ⟨hentry, hrest⟩ := List.forall_mem_cons.1 h
    rw [List.foldl_cons, joinEntry, hentry]
    exact ih hrest

theorem get?_joinEntry (hx : x ≠ entry.1) : (half.joinEntry m entry).get? x = m.get? x := by
  rw [joinEntry]
  cases h : half.gain? m entry with
  | none => rfl
  | some n => exact get?_of_gain? h hx

theorem contains_joinEntry : (half.joinEntry m entry).contains entry.1 = true := by
  rw [joinEntry, gain?]
  split
  · simp [OrderedMap.contains]
  · next current h =>
    split
    · simp [OrderedMap.contains, h]
    · simp [OrderedMap.contains]

/-- A map that took in some entries has the slots that it had and theirs. -/
theorem contains_foldl_joinEntry (h : (l.map Prod.fst).Nodup) :
    (l.foldl half.joinEntry m).contains x = (m.contains x || (l.lookup x).isSome) := by
  have hview := view_foldl (fun m : KeyMap α => m.contains x) half.joinEntry (fun _ _ => true) h
    (fun m entry hne => by rw [OrderedMap.contains, get?_joinEntry (Ne.symm hne), OrderedMap.contains])
    (fun _ _ _ => contains_joinEntry) m
  rw [hview]
  cases l.lookup x <;> simp

/-- **What the loop over the slots of one half comes to.** -/
theorem foldl_joinSlot (half : Half α ε) (a b : String) (p : Bool × Store) (h : (l.map Prod.fst).Nodup)
    (hheld : ∀ entry ∈ l, (half.get (p.2 b)).get? entry.1 = some entry.2) :
    (l.map Prod.fst).foldl (half.joinSlot a b) p =
      (p.1 || l.any fun entry => (half.gain? (half.get (p.2 a)) entry).isSome,
        Function.update p.2 a (half.put (p.2 a) (l.foldl half.joinEntry (half.get (p.2 a))))) := by
  induction l generalizing p with
  | nil => simp [half.put_get]
  | cons entry rest ih =>
    obtain ⟨hentry, hrest⟩ := List.forall_mem_cons.1 hheld
    obtain ⟨hnot, hnodup⟩ := List.nodup_cons.1 h
    rw [List.map_cons, List.foldl_cons, List.any_cons, List.foldl_cons, joinSlot, hentry, joinEntry]
    cases hgain : half.gain? (half.get (p.2 a)) entry with
    | none =>
      simp only [hgain, ih p hnodup hrest, Option.isSome_none, Bool.false_or, Option.getD_none]
    | some m =>
      -- nothing gains from itself, so the state that is read is held by another variable
      have hne : b ≠ a := by
        rintro rfl
        rw [gain?_self hentry] at hgain
        cases hgain
      have hread : ∀ other ∈ rest, (half.get (Function.update p.2 a (half.put (p.2 a) m) b)).get? other.1 =
          some other.2 := by
        rw [Function.update_of_ne hne]
        exact hrest
      have hlater : (rest.any fun other => (half.gain? m other).isSome) =
          rest.any fun other => (half.gain? (half.get (p.2 a)) other).isSome := by
        rw [Bool.eq_iff_iff, List.any_eq_true, List.any_eq_true]
        refine exists_congr fun other => and_congr_right fun hother => ?_
        rw [isSome_gain?_congr (get?_of_gain? hgain fun he => hnot (List.mem_map.2 ⟨other, hother, he⟩))]
      have hrun := ih (true, Function.update p.2 a (half.put (p.2 a) m)) hnodup hread
      simp only [Function.update_self, Function.update_idem, half.get_put, half.put_put, hlater, Bool.true_or] at hrun
      simp only [hgain, hrun, Option.isSome_some, Bool.true_or, Bool.or_true, Option.getD_some]

/-- Lets the slots of one half of the state that is held by `a` take in what they hold in the one held by `b`. -/
def joinHalf (half : Half α ε) (a b : String) (p : Bool × Store) : Bool × Store :=
  (half.get (p.2 b)).keys.foldl (half.joinSlot a b) p

theorem joinHalf_eq (half : Half α ε) (a b : String) (p : Bool × Store) : half.joinHalf a b p =
    (p.1 || (half.get (p.2 b)).entries.any fun entry => (half.gain? (half.get (p.2 a)) entry).isSome,
      Function.update p.2 a
        (half.put (p.2 a) ((half.get (p.2 b)).entries.foldl half.joinEntry (half.get (p.2 a))))) :=
  half.foldl_joinSlot a b p (half.get (p.2 b)).nodup_keys fun _ hentry => OrderedMap.mem_entries_iff.1 hentry

end Half

namespace State

variable {s t u : State} {x : Key}

theorem taintGrows_eq (s : State) (slot : Key) (taint : TaintSet) :
    s.taintGrows slot taint = (Half.taint.gain? s.taint (slot, taint)).isSome := by
  rw [taintGrows, Half.isSome_gain?_eq]
  cases s.taint.get? slot <;> rfl

theorem defsGrow_eq (s : State) (slot : Key) (defs : Names) :
    s.defsGrow slot defs = (Half.defs.gain? s.defs (slot, defs)).isSome := by
  rw [defsGrow, Half.isSome_gain?_eq]
  cases s.defs.get? slot <;> rfl

theorem grows_eq (s t : State) : s.grows t =
    ((t.taint.entries.any fun entry => (Half.taint.gain? s.taint entry).isSome) ||
      t.defs.entries.any fun entry => (Half.defs.gain? s.defs entry).isSome) := by
  simp only [grows, taintGrows_eq, defsGrow_eq]

/-- A state that gains nothing is left as it is, with its representatives. -/
theorem join_of_not_grows (h : s.grows t = false) : s.join t = s := by
  rw [grows_eq, Bool.or_eq_false_iff, List.any_eq_false, List.any_eq_false] at h
  have htaint : (s.join t).taint = s.taint := by
    rw [taint_join]
    exact Half.foldl_joinEntry_of_forall fun entry hentry => by simpa using h.1 entry hentry
  have hdefs : (s.join t).defs = s.defs := by
    rw [defs_join]
    exact Half.foldl_joinEntry_of_forall fun entry hentry => by simpa using h.2 entry hentry
  show State.mk (s.join t).taint (s.join t).defs = State.mk s.taint s.defs
  rw [htaint, hdefs]

theorem within_of_not_grows (h : s.grows t = false) : t.Within s := by
  have hright := within_join_right s t
  rwa [join_of_not_grows h] at hright

theorem not_grows_self (s : State) : s.grows s = false := by
  rw [grows_eq, Bool.or_eq_false_iff, List.any_eq_false, List.any_eq_false]
  constructor
  · rintro ⟨slot, taint⟩ hentry
    rw [Half.gain?_self (OrderedMap.mem_entries_iff.1 hentry)]
    exact Bool.false_ne_true
  · rintro ⟨slot, defs⟩ hentry
    rw [Half.gain?_self (OrderedMap.mem_entries_iff.1 hentry)]
    exact Bool.false_ne_true

theorem contains_taint_join (s t : State) (x : Key) :
    (s.join t).taint.contains x = (s.taint.contains x || t.taint.contains x) := by
  rw [taint_join, Half.contains_foldl_joinEntry t.taint.nodup_keys]
  rfl

theorem contains_defs_join (s t : State) (x : Key) :
    (s.join t).defs.contains x = (s.defs.contains x || t.defs.contains x) := by
  rw [defs_join, Half.contains_foldl_joinEntry t.defs.nodup_keys]
  rfl

/-! ### What a join adds -/

/-- Some slot, label identity or definition of `u` is not in `s`. -/
def Adds (s u : State) : Prop :=
  (∃ x, u.taint.contains x = true ∧ s.taint.contains x = false) ∨
    (∃ x, u.defs.contains x = true ∧ s.defs.contains x = false) ∨
      (∃ x i, u.Carries x i ∧ ¬ s.Carries x i) ∨ ∃ x d, u.DefinedBy x d ∧ ¬ s.DefinedBy x d

theorem not_adds_self (s : State) : ¬ s.Adds s := by
  rintro (⟨x, hx, hnot⟩ | ⟨x, hx, hnot⟩ | ⟨x, i, hx, hnot⟩ | ⟨x, d, hx, hnot⟩)
  · exact Bool.false_ne_true (hnot.symm.trans hx)
  · exact Bool.false_ne_true (hnot.symm.trans hx)
  · exact hnot hx
  · exact hnot hx

theorem adds_of_taint {taint : TaintSet} (hx : t.taint.get? x = some taint)
    (h : (Half.taint.gain? s.taint (x, taint)).isSome = true) : s.Adds (s.join t) := by
  rcases Half.exists_of_isSome_gain? h with hnew | ⟨i, hi, hnot⟩
  · refine Or.inl ⟨x, ?_, hnew⟩
    rw [contains_taint_join, OrderedMap.contains_iff.2 ⟨taint, hx⟩, Bool.or_true]
  · have hcarried : t.Carries x i := carries_iff.2 ⟨taint, hx, hi⟩
    exact Or.inr (Or.inr (Or.inl ⟨x, i, carries_join.2 (Or.inr hcarried), fun hs => hnot (carries_iff.1 hs)⟩))

theorem adds_of_defs {defs : Names} (hx : t.defs.get? x = some defs)
    (h : (Half.defs.gain? s.defs (x, defs)).isSome = true) : s.Adds (s.join t) := by
  rcases Half.exists_of_isSome_gain? h with hnew | ⟨d, hd, hnot⟩
  · refine Or.inr (Or.inl ⟨x, ?_, hnew⟩)
    rw [contains_defs_join, OrderedMap.contains_iff.2 ⟨defs, hx⟩, Bool.or_true]
  · have hdefined : t.DefinedBy x d := definedBy_iff.2 ⟨defs, hx, hd⟩
    exact Or.inr (Or.inr (Or.inr ⟨x, d, definedBy_join.2 (Or.inr hdefined), fun hs => hnot (definedBy_iff.1 hs)⟩))

theorem grows_iff_adds : s.grows t = true ↔ s.Adds (s.join t) := by
  constructor
  · intro h
    rw [grows_eq, Bool.or_eq_true, List.any_eq_true, List.any_eq_true] at h
    rcases h with ⟨⟨x, taint⟩, hentry, hgain⟩ | ⟨⟨x, defs⟩, hentry, hgain⟩
    · exact adds_of_taint (OrderedMap.mem_entries_iff.1 hentry) hgain
    · exact adds_of_defs (OrderedMap.mem_entries_iff.1 hentry) hgain
  · intro h
    rw [← Bool.not_eq_false]
    intro hnot
    rw [join_of_not_grows hnot] at h
    exact not_adds_self s h

/-- What `s` holds, `t` holds too: its slots, the identities of their labels, and their definitions. -/
structure Below (s t : State) : Prop where
  taintSlots : ∀ x, s.taint.contains x = true → t.taint.contains x = true
  defSlots : ∀ x, s.defs.contains x = true → t.defs.contains x = true
  within : s.Within t

theorem join_below_iff : (s.join t).Below u ↔ s.Below u ∧ t.Below u := by
  constructor
  · intro h
    constructor
    · refine ⟨fun x hx => h.taintSlots x ?_, fun x hx => h.defSlots x ?_, (within_join_left s t).trans h.within⟩
      · rw [contains_taint_join, hx, Bool.true_or]
      · rw [contains_defs_join, hx, Bool.true_or]
    · refine ⟨fun x hx => h.taintSlots x ?_, fun x hx => h.defSlots x ?_, (within_join_right s t).trans h.within⟩
      · rw [contains_taint_join, hx, Bool.or_true]
      · rw [contains_defs_join, hx, Bool.or_true]
  · rintro ⟨hs, ht⟩
    refine ⟨fun x hx => ?_, fun x hx => ?_, fun x i hx => ?_, fun x d hx => ?_⟩
    · rw [contains_taint_join, Bool.or_eq_true] at hx
      exact hx.elim (hs.taintSlots x) (ht.taintSlots x)
    · rw [contains_defs_join, Bool.or_eq_true] at hx
      exact hx.elim (hs.defSlots x) (ht.defSlots x)
    · exact (carries_join.1 hx).elim (hs.within.1 x i) (ht.within.1 x i)
    · exact (definedBy_join.1 hx).elim (hs.within.2 x d) (ht.within.2 x d)

/-! ### Labels that meet in a join -/

def IsNamed (s : State) : Prop := ∀ x, ∀ l ∈ (s.taintOf (some x)).labels, l.IsNamed

theorem exists_unionAll?_eq_ok (hs : s.IsNamed) (ht : t.IsNamed) {taint : TaintSet}
    (hx : t.taint.get? x = some taint) : ∃ u, (s.taintOf (some x)).unionAll? [taint] = .ok u := by
  have htaint : t.taintOf (some x) = taint := by
    rw [taintOf, OrderedMap.getD, hx, Option.getD_some]
  have hnamed : ∀ l ∈ (s.taintOf (some x)).labels ++ [taint].flatMap TaintSet.labels, l.IsNamed := by
    intro l hl
    rw [List.flatMap_singleton, List.mem_append] at hl
    exact hl.elim (hs x l) fun hl => ht x l (htaint ▸ hl)
  obtain ⟨u, hu, -⟩ | ⟨_, -, hnot⟩ := (TaintSet.yields_ofList? _).cases
  · exact ⟨u, hu⟩
  · exact absurd (TaintSet.comparable_of_named hnamed) hnot

theorem join?_eq_ok (hs : s.IsNamed) (ht : t.IsNamed) : s.join? t = .ok (s.join t) := by
  rw [join?, Result.forM_eq_ok]
  · rfl
  · intro entry hentry
    obtain ⟨u, hu⟩ := exists_unionAll?_eq_ok hs ht (OrderedMap.mem_entries_iff.1 hentry)
    dsimp only
    rw [hu]
    cases s.taintGrows entry.1 entry.2 <;> rfl

end State

namespace Store

/-- Joins the state that is held by `b` into the one that is held by `a`, slot by slot, first the taint and then
the definitions, and says whether it gained anything. -/
def joinInto (σ : Store) (a b : String) : Bool × Store :=
  Half.defs.joinHalf a b (Half.taint.joinHalf a b (false, σ))

/-- Slot by slot, a state gains what it gains as a whole, also from itself. -/
theorem joinInto_eq (σ : Store) (a b : String) :
    σ.joinInto a b = ((σ a).grows (σ b), Function.update σ a ((σ a).join (σ b))) := by
  have hdefs : ∀ m c, Half.defs.get (Function.update σ a (Half.taint.put (σ a) m) c) = (σ c).defs := by
    intro m c
    by_cases h : c = a
    · rw [h, Function.update_self]
      rfl
    · rw [Function.update_of_ne h]
      rfl
  have hjoin : (σ a).join (σ b) =
      ⟨(σ b).taint.entries.foldl Half.taint.joinEntry (σ a).taint,
        (σ b).defs.entries.foldl Half.defs.joinEntry (σ a).defs⟩ := by
    rw [← State.taint_join, ← State.defs_join]
  rw [joinInto, Half.joinHalf_eq, Half.joinHalf_eq, State.grows_eq, hjoin]
  simp only [hdefs, Function.update_self, Function.update_idem, Bool.false_or]
  rfl

/-- **Joining states in place is exact.**  The state takes in every slot, label identity and definition of the
other one and nothing else, so it becomes the least state above both.  It is said to have changed exactly when
something was added; otherwise all states are as they were.  Every other state stays as it is, also the one that
was taken in if it is held by the same variable.  The join returns if all labels go by named nodes. -/
theorem joinInto_exact (σ : Store) (a b : String) : ∃ changed after, σ.joinInto a b = (changed, after) ∧
    (∀ x, (after a).taint.contains x = ((σ a).taint.contains x || (σ b).taint.contains x)) ∧
    (∀ x, (after a).defs.contains x = ((σ a).defs.contains x || (σ b).defs.contains x)) ∧
    (∀ x i, (after a).Carries x i ↔ (σ a).Carries x i ∨ (σ b).Carries x i) ∧
    (∀ x d, (after a).DefinedBy x d ↔ (σ a).DefinedBy x d ∨ (σ b).DefinedBy x d) ∧
    (∀ v, (after a).Below v ↔ (σ a).Below v ∧ (σ b).Below v) ∧
    (changed = true ↔ (σ a).Adds (after a)) ∧ (changed = false → after = σ) ∧
    (∀ c, c ≠ a ∨ c = b → after c = σ c) ∧
    changed = (σ a).grows (σ b) ∧ after a = (σ a).join (σ b) ∧
    ((σ a).IsNamed → (σ b).IsNamed → (σ a).join? (σ b) = .ok (after a)) := by
  have hkept : (σ a).grows (σ b) = false → Function.update σ a ((σ a).join (σ b)) = σ := fun h => by
    rw [State.join_of_not_grows h, Function.update_eq_self]
  refine ⟨_, _, joinInto_eq σ a b, ?_⟩
  rw [Function.update_self]
  refine ⟨State.contains_taint_join _ _, State.contains_defs_join _ _, fun _ _ => State.carries_join,
    fun _ _ => State.definedBy_join, fun _ => State.join_below_iff, State.grows_iff_adds, hkept, ?_, rfl, rfl,
    State.join?_eq_ok⟩
  rintro c (hne | rfl)
  · rw [Function.update_of_ne hne]
  · by_cases h : c = a
    · subst h
      rw [hkept (State.not_grows_self _)]
    · rw [Function.update_of_ne h]

end Store

end TaintFlow
