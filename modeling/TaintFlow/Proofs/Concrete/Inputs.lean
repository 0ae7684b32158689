import TaintFlow.Proofs.Concrete.Passing

/-!
# What an analysis reads

A function is analysed with its declared origins, the taint that callers pass to it and the taint of the
globals that it mentions (`has_inputs_iff`), and with nothing else (`inputs_congr`).  A parameter or
receiver that is named like a global hides the global.
-/

namespace TaintFlow.ConcretePass

variable {p : ConcretePass} {c c' : ConcreteState}

theorem has_foldl_addEntry {l : List (Slot × TaintSet)} {m : KeyMap TaintSet} {x : Slot} {i : Identity} :
    ((l.foldl (fun m (slot, taint) => m.set slot (m.getD slot ∅ ∪ taint)) m).getD x ∅).has i = true ↔
      (m.getD x ∅).has i = true ∨ ∃ entry ∈ l, entry.1 = x ∧ entry.2.has i = true := by
  induction l generalizing m with
  | nil => simp
  | cons entry rest ih =>
    rw [List.foldl_cons, ih, OrderedMap.getD_set, List.exists_mem_cons_iff, ← or_assoc]
    refine or_congr_left ?_
    by_cases he : x = entry.1
    · subst he
      simp
    · simp [he, Ne.symm he]

theorem contains_foldl_addEntry {l : List (Slot × TaintSet)} {m : KeyMap TaintSet} {x : Slot}
    (h : (l.foldl (fun m (slot, taint) => m.set slot (m.getD slot ∅ ∪ taint)) m).contains x = true) :
    m.contains x = true ∨ ∃ entry ∈ l, entry.1 = x := by
  induction l generalizing m with
  | nil => exact Or.inl h
  | cons entry rest ih =>
    rw [List.exists_mem_cons_iff, ← or_assoc]
    refine (ih h).imp_left fun hset => ?_
    unfold OrderedMap.contains at hset ⊢
    rw [OrderedMap.get?_set] at hset
    by_cases he : x = entry.1
    · exact Or.inr he.symm
    · rw [if_neg he] at hset
      exact Or.inl hset

theorem get?_foldl_setIfAbsent (names : List String) (globals m : KeyMap TaintSet) (x : Slot) :
    (names.foldl (fun m name => m.setIfAbsent (.text name) (globals.getD (.text name) ∅)) m).get? x =
      (m.get? x).or (if x ∈ names.map Key.text then some (globals.getD x ∅) else none) := by
  induction names generalizing m with
  | nil => simp
  | cons name rest ih =>
    have hone : (m.setIfAbsent (.text name) (globals.getD (.text name) ∅)).get? x =
        (m.get? x).or (if x = .text name then some (globals.getD x ∅) else none) := by
      unfold OrderedMap.setIfAbsent OrderedMap.contains
      by_cases he : x = .text name
      · subst he
        cases hm : m.get? (.text name) <;> simp [hm]
      · rw [if_neg he, Option.or_none]
        split
        · rfl
        · exact OrderedMap.get?_set_ne _ _ he
    rw [List.foldl_cons, ih, hone, Option.or_assoc, List.map_cons]
    by_cases he : x = .text name <;> simp [he]

/-- The inputs of a function are made of its own table and of the globals that it mentions. -/
theorem inputs_congr {f : Function} (hpassed : c'.passed.getD f.id ∅ = c.passed.getD f.id ∅)
    (hglobals : ∀ name ∈ f.globalsIn p.program.globals,
      c'.globals.getD (.text name) ∅ = c.globals.getD (.text name) ∅) :
    p.inputs c' f = p.inputs c f := by
  unfold inputs
  dsimp only
  rw [hpassed]
  refine List.foldl_ext _ _ _ fun m name hname => ?_
  rw [hglobals name hname]

theorem isPassed_of_declaredInputs {f : Function} {x : Slot} (h : f.declaredInputs.contains x = true) :
    f.IsPassed x := by
  revert h
  refine List.foldlRecOn (motive := fun m : KeyMap TaintSet => m.contains x = true → f.IsPassed x)
    _ _ (fun h => by cases h) fun m hm entry hentry => ?_
  obtain ⟨index, param⟩ := entry
  dsimp only
  cases param.origin with
  | none => exact hm
  | some origin =>
    intro hset
    unfold OrderedMap.contains at hset hm
    rw [OrderedMap.get?_set] at hset
    by_cases he : x = .text param.name
    · exact Or.inl ⟨param, (List.of_mem_zip hentry).2, he⟩
    · rw [if_neg he] at hset
      exact hm hset

/-- **What a function is analysed with**, unless a parameter or the receiver is named like a global: its
declared origins, what callers pass to it and what the globals hold that it mentions. -/
theorem has_inputs_iff {f : Function}
    (hslots : ∀ x, (c.passed.getD f.id ∅).contains x = true → f.IsPassed x)
    (hfree : ∀ name ∈ p.program.globals, ¬ f.IsPassed (.text name)) {x : Slot} {i : Identity} :
    ((p.inputs c f).getD x ∅).has i = true ↔
      (f.declaredInputs.getD x ∅).has i = true ∨ c.Holds f.id x i ∨
        ((∃ name ∈ f.globalsIn p.program.globals, x = .text name) ∧ c.GlobalHolds x i) := by
  have hentries : (∃ entry ∈ (c.passed.getD f.id ∅).entries, entry.1 = x ∧ entry.2.has i = true) ↔
      c.Holds f.id x i := by
    unfold ConcreteState.Holds
    rw [OrderedMap.has_getD_iff]
    constructor
    · rintro ⟨entry, hentry, rfl, hi⟩
      exact ⟨entry.2, OrderedMap.mem_entries_iff.1 hentry, hi⟩
    · rintro ⟨taint, htaint, hi⟩
      exact ⟨(x, taint), OrderedMap.mem_entries_iff.2 htaint, rfl, hi⟩
  unfold inputs
  dsimp only
  rw [← or_assoc, ← hentries, ← has_foldl_addEntry]
  generalize hm : (c.passed.getD f.id ∅).entries.foldl _ f.declaredInputs = m
  have hpassed : m.contains x = true → f.IsPassed x := by
    intro hx
    rw [← hm] at hx
    rcases contains_foldl_addEntry hx with hx | ⟨entry, hentry, rfl⟩
    · exact isPassed_of_declaredInputs hx
    · refine hslots entry.1 ?_
      rw [OrderedMap.contains, OrderedMap.mem_entries_iff.1 hentry]
      rfl
  rw [OrderedMap.getD, get?_foldl_setIfAbsent]
  cases hx : m.get? x with
  | none =>
    have hnone : m.getD x ∅ = ∅ := by rw [OrderedMap.getD, hx]; rfl
    rw [hnone, TaintSet.has_empty, Option.none_or]
    by_cases hin : x ∈ (f.globalsIn p.program.globals).toList.map Key.text
    · obtain ⟨name, hname, rfl⟩ := List.mem_map.1 hin
      rw [if_pos hin]
      refine Iff.symm ?_
      simp only [Bool.false_eq_true, false_or]
      exact and_iff_right ⟨name, hname, rfl⟩
    · rw [if_neg hin]
      refine iff_of_false (by simp) ?_
      rintro (hfalse | ⟨⟨name, hname, rfl⟩, -⟩)
      · cases hfalse
      · exact hin (List.mem_map.2 ⟨name, hname, rfl⟩)
  | some taint =>
    have hsome : m.getD x ∅ = taint := by rw [OrderedMap.getD, hx]; rfl
    rw [hsome, Option.some_or]
    refine (or_iff_left ?_).symm
    rintro ⟨⟨name, hname, rfl⟩, -⟩
    refine hfree name (OrderedSet.mem_filter.1 hname).1 (hpassed ?_)
    rw [OrderedMap.contains, hx]
    rfl

end TaintFlow.ConcretePass
