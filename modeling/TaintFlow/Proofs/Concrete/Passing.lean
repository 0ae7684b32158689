import TaintFlow.Concrete
import TaintFlow.Proofs.Flow.Inputs
import TaintFlow.Proofs.Summary.Rounds

/-!
# What an analysis passes on

Recording an analysis adds the taint of its calls to the tables of the called functions and the taint of
the globals that it writes to that of the program.  Nothing else is added, and whoever reads a slot that
changed is queued (`Recorded`): a function that is called when its own table changes or it never ran, and
every analysed function that mentions a global when that one changes.
-/

namespace TaintFlow

/-! ### Adding a taint to a table -/

theorem has_foldTaint {table : KeyMap TaintSet} {x y : Slot} {taint : TaintSet} {i : Identity} :
    ((foldTaint table x taint).1.getD y ∅).has i = true ↔
      (table.getD y ∅).has i = true ∨ (x = y ∧ taint.has i = true) := by
  unfold foldTaint
  dsimp only
  split
  · next h =>
    refine ⟨Or.inl, fun hor => hor.elim id ?_⟩
    rintro ⟨rfl, hi⟩
    rw [Bool.or_eq_true] at h
    rcases h with hempty | hsub
    · rw [TaintSet.isEmpty_iff.1 hempty i] at hi
      cases hi
    · exact TaintSet.isSubset_iff.1 hsub i hi
  · rw [OrderedMap.getD_set]
    by_cases he : y = x
    · subst he
      simp
    · simp [he, Ne.symm he]

theorem contains_foldTaint {table : KeyMap TaintSet} {x y : Slot} {taint : TaintSet}
    (h : (foldTaint table x taint).1.contains y = true) : table.contains y = true ∨ x = y := by
  unfold foldTaint at h
  dsimp only at h
  split at h
  · exact Or.inl h
  · unfold OrderedMap.contains at h ⊢
    rw [OrderedMap.get?_set] at h
    by_cases he : y = x
    · exact Or.inr he.symm
    · rw [if_neg he] at h
      exact Or.inl h

theorem fst_foldTaint {table : KeyMap TaintSet} {x : Slot} {taint : TaintSet}
    (h : (foldTaint table x taint).2 = false) : (foldTaint table x taint).1 = table := by
  unfold foldTaint at h ⊢
  dsimp only at h ⊢
  split
  · rfl
  · next hgrows =>
    rw [if_neg hgrows] at h
    cases h

theorem getD_foldTaint_ne {table : KeyMap TaintSet} {x y : Slot} (taint : TaintSet) (h : y ≠ x) :
    (foldTaint table x taint).1.getD y ∅ = table.getD y ∅ := by
  unfold foldTaint
  dsimp only
  split
  · rfl
  · exact (OrderedMap.getD_set _ _ _ _ _).trans (if_neg h)

/-- Adds some taints to a table, one after the other, and says whether a slot grew. -/
def foldTaints (l : List (Slot × TaintSet)) (start : KeyMap TaintSet × Bool) : KeyMap TaintSet × Bool :=
  l.foldl (fun (table, grown) (slot, taint) =>
    let (table, grew) := foldTaint table slot taint
    (table, grown || grew)) start

theorem has_foldTaints {l : List (Slot × TaintSet)} {start : KeyMap TaintSet × Bool} {y : Slot}
    {i : Identity} : ((foldTaints l start).1.getD y ∅).has i = true ↔
      (start.1.getD y ∅).has i = true ∨ ∃ entry ∈ l, entry.1 = y ∧ entry.2.has i = true := by
  induction l generalizing start with
  | nil => simp [foldTaints]
  | cons entry rest ih =>
    have hcons : foldTaints (entry :: rest) start =
        foldTaints rest ((foldTaint start.1 entry.1 entry.2).1,
          start.2 || (foldTaint start.1 entry.1 entry.2).2) := rfl
    rw [hcons, ih, has_foldTaint, List.exists_mem_cons_iff, or_assoc]

theorem contains_foldTaints {l : List (Slot × TaintSet)} {start : KeyMap TaintSet × Bool} {y : Slot}
    (h : (foldTaints l start).1.contains y = true) :
    start.1.contains y = true ∨ ∃ entry ∈ l, entry.1 = y := by
  induction l generalizing start with
  | nil => exact Or.inl h
  | cons entry rest ih =>
    rw [List.exists_mem_cons_iff, ← or_assoc]
    exact (ih h).imp_left contains_foldTaint

theorem fst_foldTaints {l : List (Slot × TaintSet)} {start : KeyMap TaintSet × Bool}
    (h : (foldTaints l start).2 = false) : (foldTaints l start).1 = start.1 ∧ start.2 = false := by
  induction l generalizing start with
  | nil => exact ⟨rfl, h⟩
  | cons entry rest ih =>
    have hcons : foldTaints (entry :: rest) start =
        foldTaints rest ((foldTaint start.1 entry.1 entry.2).1,
          start.2 || (foldTaint start.1 entry.1 entry.2).2) := rfl
    rw [hcons] at h ⊢
    obtain ⟨hsame, hgrown⟩ := ih h
    rw [Bool.or_eq_false_iff] at hgrown
    exact ⟨hsame.trans (fst_foldTaint hgrown.2), hgrown.1⟩

/-- A definition other than that of the entry reaches the end, so that the global was written. -/
def Analysis.Writes (a : Analysis) (name : String) : Prop :=
  ∃ d, d ≠ globalKey name ∧ a.exit.DefinedBy (.text name) d

theorem Analysis.writes_iff {a : Analysis} {name : String} :
    ((a.exit.defsOf (some (.text name))).erase (globalKey name)).isEmpty = false ↔ a.Writes name := by
  rw [OrderedSet.isEmpty_eq_false_iff]
  exact exists_congr fun d => OrderedSet.mem_erase.trans and_comm

def Function.IsPassed (f : Function) (x : Slot) : Prop :=
  (∃ param ∈ f.params, x = .text param.name) ∨ f.receiverSlot? = some x

namespace ConcreteState

def Holds (c : ConcreteState) (id : String) (x : Slot) (i : Identity) : Prop :=
  ((c.passed.getD id ∅).getD x ∅).has i = true

def GlobalHolds (c : ConcreteState) (x : Slot) (i : Identity) : Prop := (c.globals.getD x ∅).has i = true

end ConcreteState

namespace ConcretePass

variable {p : ConcretePass} {c c' c'' : ConcreteState} {affected affected' affected'' : List String}

/-- A call passes a label to a slot of a function that is usable. -/
def Passes (p : ConcretePass) (call : CallObservation) (id : String) (x : Slot) (i : Identity) : Prop :=
  ∃ g, p.program.functions.get? call.callee = some g ∧ g.id = id ∧ p.isUsable id = true ∧
    ((∃ (k : Nat) (param : Param) (taint : TaintSet), g.params[k]? = some param ∧
        call.args[k]? = some taint ∧ x = .text param.name ∧ taint.has i = true) ∨
      (g.receiverSlot? = some x ∧ call.receiver.has i = true))

theorem isPassed_of_mem_passedBy {g : Function} {call : CallObservation} {entry : Slot × TaintSet}
    (h : entry ∈ passedBy g call) : g.IsPassed entry.1 := by
  unfold passedBy at h
  dsimp only at h
  rcases List.mem_append.1 h with h | h
  · obtain ⟨⟨⟨k, param⟩, taint⟩, hmem, rfl⟩ := List.mem_map.1 h
    exact Or.inl ⟨param, (List.of_mem_zip (List.of_mem_zip hmem).1).2, rfl⟩
  · refine Or.inr ?_
    cases hslot : g.receiverSlot? with
    | none =>
      rw [hslot] at h
      exact absurd h List.not_mem_nil
    | some slot =>
      rw [hslot] at h
      rw [List.mem_singleton.1 h]

theorem exists_passedBy_iff {g : Function} {call : CallObservation} {x : Slot} {i : Identity} :
    (∃ entry ∈ passedBy g call, entry.1 = x ∧ entry.2.has i = true) ↔
      (∃ (k : Nat) (param : Param) (taint : TaintSet), g.params[k]? = some param ∧
          call.args[k]? = some taint ∧ x = .text param.name ∧ taint.has i = true) ∨
        (g.receiverSlot? = some x ∧ call.receiver.has i = true) := by
  unfold passedBy
  dsimp only
  simp only [List.mem_append, or_and_right, exists_or]
  refine or_congr ?_ ?_
  · constructor
    · rintro ⟨entry, hentry, rfl, hi⟩
      obtain ⟨⟨⟨k, param⟩, taint⟩, hmem, rfl⟩ := List.mem_map.1 hentry
      obtain ⟨j, hj⟩ := List.mem_iff_getElem?.1 hmem
      obtain ⟨hparam, htaint⟩ := List.getElem?_zip_eq_some.1 hj
      rw [Function.indexedParams, List.getElem?_zip_eq_some] at hparam
      rw [TaintSet.has_extend] at hi
      exact ⟨j, param, taint, hparam.2, htaint, rfl, hi⟩
    · rintro ⟨k, param, taint, hparam, htaint, rfl, hi⟩
      refine ⟨_, List.mem_map.2 ⟨((k, param), taint), List.mem_iff_getElem?.2 ⟨k, ?_⟩, rfl⟩, rfl, ?_⟩
      · refine List.getElem?_zip_eq_some.2 ⟨List.getElem?_zip_eq_some.2 ⟨?_, hparam⟩, htaint⟩
        exact List.getElem?_range (List.getElem?_eq_some_iff.1 hparam).1
      · exact TaintSet.has_extend.trans hi
  · cases g.receiverSlot? with
    | none => simp
    | some slot =>
      simp only [List.mem_singleton, exists_eq_left, TaintSet.has_extend, Option.some.injEq]

/-! ### Calls -/

/-- The tables and the functions to be analysed after some calls were passed on. -/
structure PassedCalls (p : ConcretePass) (calls : List CallObservation) (c : ConcreteState)
    (affected : List String) (c' : ConcreteState) (affected' : List String) : Prop where
  rest : c' = { c with passed := c'.passed }
  holds : ∀ id x i, c'.Holds id x i ↔ c.Holds id x i ∨ ∃ call ∈ calls, p.Passes call id x i
  slots : ∀ id x, (c'.passed.getD id ∅).contains x = true →
    (c.passed.getD id ∅).contains x = true ∨ ∃ call ∈ calls, ∃ g,
      p.program.functions.get? call.callee = some g ∧ g.id = id ∧ g.IsPassed x
  changed : ∀ id, c'.passed.getD id ∅ = c.passed.getD id ∅ ∨ id ∈ affected'
  called : ∀ call ∈ calls, ∀ g, p.program.functions.get? call.callee = some g →
    p.isUsable g.id = true → c.runsOf g.id = 0 → g.id ∈ affected'
  kept : ∀ id ∈ affected, id ∈ affected'
  origin : ∀ id ∈ affected', id ∈ affected ∨ ∃ call ∈ calls, ∃ g,
    p.program.functions.get? call.callee = some g ∧ g.id = id ∧ p.isUsable id = true

theorem PassedCalls.refl (p : ConcretePass) (c : ConcreteState) (affected : List String) :
    p.PassedCalls [] c affected c affected where
  rest := rfl
  holds _ _ _ := by simp
  slots _ _ h := Or.inl h
  changed _ := Or.inl rfl
  called _ h := absurd h List.not_mem_nil
  kept _ h := h
  origin _ h := Or.inl h

theorem PassedCalls.trans {first rest : List CallObservation}
    (h : p.PassedCalls first c affected c' affected')
    (g : p.PassedCalls rest c' affected' c'' affected'') :
    p.PassedCalls (first ++ rest) c affected c'' affected'' where
  rest := by rw [g.rest, h.rest]
  holds id x i := by
    rw [g.holds, h.holds, or_assoc]
    simp only [List.mem_append, or_and_right, exists_or]
  slots id x hx := by
    rcases g.slots id x hx with hin | ⟨call, hcall, hslot⟩
    · exact (h.slots id x hin).imp_right fun ⟨call, hcall, hslot⟩ =>
        ⟨call, List.mem_append_left rest hcall, hslot⟩
    · exact Or.inr ⟨call, List.mem_append_right first hcall, hslot⟩
  changed id := by
    rcases g.changed id with hsame | hin
    · exact (h.changed id).imp hsame.trans (g.kept id)
    · exact Or.inr hin
  called call hcall callee hcallee husable hruns := by
    rcases List.mem_append.1 hcall with hfirst | hrest
    · exact g.kept _ (h.called call hfirst callee hcallee husable hruns)
    · refine g.called call hrest callee hcallee husable ?_
      rw [h.rest]
      exact hruns
  kept id hid := g.kept id (h.kept id hid)
  origin id hid := by
    rcases g.origin id hid with hin | ⟨call, hcall, horigin⟩
    · exact (h.origin id hin).imp_right fun ⟨call, hcall, horigin⟩ =>
        ⟨call, List.mem_append_left rest hcall, horigin⟩
    · exact Or.inr ⟨call, List.mem_append_right first hcall, horigin⟩

def addTo (affected : List String) (id : String) : List String :=
  if id ∈ affected then affected else affected ++ [id]

theorem mem_addTo {affected : List String} {id other : String} :
    other ∈ addTo affected id ↔ other ∈ affected ∨ other = id := by
  unfold addTo
  split
  · next h => exact ⟨Or.inl, fun hor => hor.elim (fun hin => hin) fun he => he ▸ h⟩
  · simp

theorem passCall_of_usable {call : CallObservation} {callee : Function}
    (hcallee : p.program.functions.get? call.callee = some callee) (husable : p.isUsable callee.id = true)
    {table : KeyMap TaintSet} {grown : Bool}
    (hfold : foldTaints (passedBy callee call)
      (c.passed.getD callee.id ∅, c.runsOf callee.id == 0) = (table, grown)) :
    p.passCall (c, affected) call = ({ c with passed := c.passed.set callee.id table },
      if grown then addTo affected callee.id else affected) := by
  have h : p.passCall (c, affected) call =
      (let (table, grown) := foldTaints (passedBy callee call)
          (c.passed.getD callee.id ∅, c.runsOf callee.id == 0)
        let c := { c with passed := c.passed.set callee.id table }
        if grown && callee.id ∉ affected then (c, affected ++ [callee.id]) else (c, affected)) := by
    simp only [passCall, hcallee, husable, Bool.not_true, Bool.false_eq_true, if_false]
    rfl
  rw [h, hfold]
  dsimp only
  unfold addTo
  by_cases hin : callee.id ∈ affected <;> cases grown <;> simp [hin]

theorem passCall_of_not_usable {call : CallObservation}
    (h : ∀ g, p.program.functions.get? call.callee = some g → p.isUsable g.id = false) :
    p.passCall (c, affected) call = (c, affected) := by
  unfold passCall
  dsimp only
  split
  · rfl
  · next callee hcallee => rw [h callee hcallee, Bool.not_false, if_pos rfl]

theorem passes_iff {call : CallObservation} {callee : Function}
    (hcallee : p.program.functions.get? call.callee = some callee) (husable : p.isUsable callee.id = true)
    {id : String} {x : Slot} {i : Identity} : p.Passes call id x i ↔
      id = callee.id ∧ ∃ entry ∈ passedBy callee call, entry.1 = x ∧ entry.2.has i = true := by
  rw [exists_passedBy_iff]
  constructor
  · rintro ⟨g, hg, rfl, -, hpasses⟩
    obtain rfl : callee = g := Option.some.inj (hcallee.symm.trans hg)
    exact ⟨rfl, hpasses⟩
  · rintro ⟨rfl, hpasses⟩
    exact ⟨callee, hcallee, rfl, husable, hpasses⟩

theorem holds_setPassed {id other : String} {table : KeyMap TaintSet} {x : Slot} {i : Identity} :
    ConcreteState.Holds { c with passed := c.passed.set id table } other x i ↔
      if other = id then (table.getD x ∅).has i = true else c.Holds other x i := by
  unfold ConcreteState.Holds
  rw [OrderedMap.getD_set]
  split <;> rfl

theorem passedCalls_of_usable {call : CallObservation} {callee : Function}
    (hcallee : p.program.functions.get? call.callee = some callee)
    (husable : p.isUsable callee.id = true) : p.PassedCalls [call] c affected
      (p.passCall (c, affected) call).1 (p.passCall (c, affected) call).2 := by
  obtain ⟨⟨table, grown⟩, hfold⟩ : ∃ result, foldTaints (passedBy callee call)
      (c.passed.getD callee.id ∅, c.runsOf callee.id == 0) = result := ⟨_, rfl⟩
  have htable : (foldTaints (passedBy callee call)
      (c.passed.getD callee.id ∅, c.runsOf callee.id == 0)).1 = table := congrArg Prod.fst hfold
  have hsame : grown = false → table = c.passed.getD callee.id ∅ ∧ c.runsOf callee.id ≠ 0 := by
    rintro rfl
    obtain ⟨hunchanged, hruns⟩ := fst_foldTaints (congrArg Prod.snd hfold)
    exact ⟨htable.symm.trans hunchanged, by simpa using hruns⟩
  rw [passCall_of_usable hcallee husable hfold]
  exact {
    rest := rfl
    holds := fun id x i => by
      simp only [holds_setPassed, List.mem_singleton, exists_eq_left, passes_iff hcallee husable]
      by_cases he : id = callee.id
      · subst he
        rw [if_pos rfl, ← htable, has_foldTaints]
        simp only [ConcreteState.Holds, true_and]
      · simp only [he, if_false, false_and, or_false]
    slots := fun id x hx => by
      dsimp only at hx
      rw [OrderedMap.getD_set] at hx
      by_cases he : id = callee.id
      · subst he
        rw [if_pos rfl, ← htable] at hx
        refine (contains_foldTaints hx).imp_right fun hadded => ?_
        obtain ⟨entry, hentry, hslot⟩ := hadded
        exact ⟨call, List.mem_singleton_self call, callee, hcallee, rfl,
          hslot ▸ isPassed_of_mem_passedBy hentry⟩
      · rw [if_neg he] at hx
        exact Or.inl hx
    changed := fun id => by
      by_cases he : id = callee.id
      · subst he
        cases grown with
        | true => exact Or.inr (mem_addTo.2 (Or.inr rfl))
        | false =>
          refine Or.inl ((OrderedMap.getD_set _ _ _ _ _).trans ?_)
          rw [if_pos rfl, (hsame rfl).1]
      · exact Or.inl ((OrderedMap.getD_set _ _ _ _ _).trans (if_neg he))
    called := fun other hother g hg _ hruns => by
      rw [List.mem_singleton.1 hother] at hg
      obtain rfl : callee = g := Option.some.inj (hcallee.symm.trans hg)
      cases grown with
      | true => exact mem_addTo.2 (Or.inr rfl)
      | false => exact absurd hruns (hsame rfl).2
    kept := fun id hid => by
      dsimp only
      split
      · exact mem_addTo.2 (Or.inl hid)
      · exact hid
    origin := fun id hid => by
      dsimp only at hid
      split at hid
      · refine (mem_addTo.1 hid).imp_right fun he => ?_
        exact ⟨call, List.mem_singleton_self call, callee, hcallee, he.symm, he ▸ husable⟩
      · exact Or.inl hid }

theorem passedCalls_of_not_usable {call : CallObservation}
    (h : ∀ g, p.program.functions.get? call.callee = some g → p.isUsable g.id = false) :
    p.PassedCalls [call] c affected (p.passCall (c, affected) call).1
      (p.passCall (c, affected) call).2 := by
  have hnot : ∀ g, p.program.functions.get? call.callee = some g → ¬ p.isUsable g.id = true :=
    fun g hg => Bool.eq_false_iff.1 (h g hg)
  rw [passCall_of_not_usable h]
  exact {
    rest := rfl
    holds := fun id x i => by
      refine (or_iff_left ?_).symm
      rintro ⟨other, hother, g, hg, rfl, husable, -⟩
      rw [List.mem_singleton.1 hother] at hg
      exact hnot g hg husable
    slots := fun _ _ h => Or.inl h
    changed := fun _ => Or.inl rfl
    called := fun other hother g hg husable => by
      rw [List.mem_singleton.1 hother] at hg
      exact absurd husable (hnot g hg)
    kept := fun _ h => h
    origin := fun _ h => Or.inl h }

theorem passedCalls_passCall (p : ConcretePass) (c : ConcreteState) (affected : List String)
    (call : CallObservation) : p.PassedCalls [call] c affected (p.passCall (c, affected) call).1
      (p.passCall (c, affected) call).2 := by
  by_cases h : ∃ g, p.program.functions.get? call.callee = some g ∧ p.isUsable g.id = true
  · obtain ⟨callee, hcallee, husable⟩ := h
    exact passedCalls_of_usable hcallee husable
  · exact passedCalls_of_not_usable fun g hg => Bool.eq_false_iff.2 fun husable => h ⟨g, hg, husable⟩

theorem passedCalls_foldl (p : ConcretePass) (calls : List CallObservation) (c : ConcreteState)
    (affected : List String) : p.PassedCalls calls c affected (calls.foldl p.passCall (c, affected)).1
      (calls.foldl p.passCall (c, affected)).2 := by
  induction calls generalizing c affected with
  | nil => exact .refl p c affected
  | cons call rest ih =>
    exact (p.passedCalls_passCall c affected call).trans (ih _ _)

/-! ### Globals -/

/-- The globals and the functions to be analysed after some written globals were passed on. -/
structure PassedGlobals (a : Analysis) (names : List String) (c : ConcreteState)
    (affected : List String) (c' : ConcreteState) (affected' : List String) : Prop where
  rest : c' = { c with globals := c'.globals }
  holds : ∀ x i, c'.GlobalHolds x i ↔ c.GlobalHolds x i ∨
    ∃ name ∈ names, a.Writes name ∧ x = .text name ∧ a.exit.Carries x i
  slots : ∀ x, c'.globals.contains x = true → c.globals.contains x = true ∨
    ∃ name ∈ names, a.Writes name ∧ x = .text name
  readers : ∀ name, c'.globals.getD (.text name) ∅ = c.globals.getD (.text name) ∅ ∨
    ∀ id r, c.analyses.get? id = some r → name ∈ r.globals → id ∈ affected'
  kept : ∀ id ∈ affected, id ∈ affected'
  origin : ∀ id ∈ affected', id ∈ affected ∨ ∃ r, c.analyses.get? id = some r

variable {a : Analysis}

theorem PassedGlobals.refl (a : Analysis) (c : ConcreteState) (affected : List String) :
    PassedGlobals a [] c affected c affected where
  rest := rfl
  holds _ _ := by simp
  slots _ h := Or.inl h
  readers _ := Or.inl rfl
  kept _ h := h
  origin _ h := Or.inl h

theorem PassedGlobals.trans {first rest : List String}
    (h : PassedGlobals a first c affected c' affected')
    (g : PassedGlobals a rest c' affected' c'' affected'') :
    PassedGlobals a (first ++ rest) c affected c'' affected'' := by
  have hanalyses : c'.analyses = c.analyses := by rw [h.rest]
  exact {
    rest := by rw [g.rest, h.rest]
    holds := fun x i => by
      rw [g.holds, h.holds, or_assoc]
      simp only [List.mem_append, or_and_right, exists_or]
    slots := fun x hx => by
      simp only [List.mem_append, or_and_right, exists_or]
      rw [← or_assoc]
      exact (g.slots x hx).imp_left (h.slots x)
    readers := fun name => by
      have hreaders := g.readers name
      rw [hanalyses] at hreaders
      rcases hreaders with hsame | hin
      · exact (h.readers name).imp hsame.trans fun hin id r hr hname => g.kept id (hin id r hr hname)
      · exact Or.inr hin
    kept := fun id hid => g.kept id (h.kept id hid)
    origin := fun id hid => by
      have horigin := g.origin id hid
      rw [hanalyses] at horigin
      exact horigin.elim (h.origin id) Or.inr }

/-- Nothing changes for a global that is not written, or whose taint is in the table. -/
theorem PassedGlobals.of_within {name : String}
    (h : ∀ i, a.Writes name → a.exit.Carries (.text name) i → c.GlobalHolds (.text name) i) :
    PassedGlobals a [name] c affected c affected where
  rest := rfl
  holds x i := by
    refine (or_iff_left_of_imp ?_).symm
    rintro ⟨other, hother, hwrites, rfl, hi⟩
    obtain rfl := List.mem_singleton.1 hother
    exact h i hwrites hi
  slots _ h := Or.inl h
  readers _ := Or.inl rfl
  kept _ h := h
  origin _ h := Or.inl h

theorem passedGlobals_passGlobal (a : Analysis) (c : ConcreteState) (affected : List String)
    (name : String) : PassedGlobals a [name] c affected (passGlobal a (c, affected) name).1
      (passGlobal a (c, affected) name).2 := by
  unfold passGlobal
  dsimp only
  split
  · next hempty =>
    refine .of_within fun i hwrites => ?_
    rw [Analysis.writes_iff.2 hwrites] at hempty
    cases hempty
  · next hwritten =>
    have hwrites : a.Writes name := Analysis.writes_iff.1 (Bool.eq_false_iff.2 hwritten)
    have hfold : ∀ {y i}, ((foldTaint c.globals (.text name)
        ((a.exit.taintOf (some (.text name))).extend (globalKey name) false)).1.getD y ∅).has i = true ↔
          c.GlobalHolds y i ∨ (.text name = y ∧ a.exit.Carries (.text name) i) := by
      intro y i
      rw [has_foldTaint, TaintSet.has_extend]
      rfl
    split
    · next hgrew =>
      exact {
        rest := rfl
        holds := fun x i => by
          refine hfold.trans (or_congr_right ?_)
          constructor
          · rintro ⟨rfl, hi⟩
            exact ⟨name, List.mem_singleton_self name, hwrites, rfl, hi⟩
          · rintro ⟨other, hother, -, rfl, hi⟩
            obtain rfl := List.mem_singleton.1 hother
            exact ⟨rfl, hi⟩
        slots := fun x hx => (contains_foldTaint hx).imp_right fun he =>
          ⟨name, List.mem_singleton_self name, hwrites, he.symm⟩
        readers := fun other => by
          by_cases he : other = name
          · subst he
            refine Or.inr fun id r hr hname => List.mem_append_right _ (List.mem_map.2 ⟨(id, r), ?_, rfl⟩)
            exact List.mem_filter.2 ⟨Table.mem_entries_iff.2 hr, decide_eq_true hname⟩
          · exact Or.inl (getD_foldTaint_ne _ fun hk => he (Key.text.inj hk))
        kept := fun id hid => List.mem_append_left _ hid
        origin := fun id hid => by
          refine (List.mem_append.1 hid).imp_right fun hid => ?_
          obtain ⟨⟨other, r⟩, hmem, rfl⟩ := List.mem_map.1 hid
          exact ⟨r, Table.mem_entries_iff.1 (List.mem_filter.1 hmem).1⟩ }
    · next hgrew =>
      refine .of_within fun i _ hi => ?_
      have hsame := fst_foldTaint (Bool.eq_false_iff.2 hgrew)
      have hi' := (hfold (y := .text name)).2 (Or.inr ⟨rfl, hi⟩)
      rwa [hsame] at hi'

theorem passedGlobals_foldl (a : Analysis) (names : List String) (c : ConcreteState)
    (affected : List String) : PassedGlobals a names c affected
      (names.foldl (passGlobal a) (c, affected)).1 (names.foldl (passGlobal a) (c, affected)).2 := by
  induction names generalizing c affected with
  | nil => exact .refl a c affected
  | cons name rest ih =>
    exact (passedGlobals_passGlobal a c affected name).trans (ih _ _)

/-! ### The queue -/

theorem mem_queue_enqueue {c : ConcreteState} {id other : String} :
    other ∈ (c.enqueue id).queue ↔ other ∈ c.queue ∨ other = id := by
  unfold ConcreteState.enqueue
  split
  · next h => exact ⟨Or.inl, fun hor => hor.elim (fun hin => hin) fun he => he ▸ h⟩
  · simp

theorem nodup_queue_enqueue {c : ConcreteState} (h : c.queue.Nodup) (id : String) :
    (c.enqueue id).queue.Nodup := by
  unfold ConcreteState.enqueue
  split
  · exact h
  · next hnot =>
    refine List.nodup_append.2 ⟨h, List.nodup_singleton id, fun x hx y hy he => hnot ?_⟩
    rw [← List.mem_singleton.1 hy, ← he]
    exact hx

theorem foldl_enqueue (ids : List String) (c : ConcreteState) :
    ids.foldl ConcreteState.enqueue c = { c with queue := (ids.foldl ConcreteState.enqueue c).queue } ∧
      (∀ id, id ∈ (ids.foldl ConcreteState.enqueue c).queue ↔ id ∈ c.queue ∨ id ∈ ids) ∧
      (c.queue.Nodup → (ids.foldl ConcreteState.enqueue c).queue.Nodup) := by
  induction ids generalizing c with
  | nil => exact ⟨rfl, by simp, fun h => h⟩
  | cons id rest ih =>
    obtain ⟨hrest, hmem, hnodup⟩ := ih (c.enqueue id)
    have hone : c.enqueue id = { c with queue := (c.enqueue id).queue } := by
      unfold ConcreteState.enqueue
      split <;> rfl
    rw [List.foldl_cons]
    refine ⟨by rw [hrest, hone], fun other => ?_, fun h => hnodup (nodup_queue_enqueue h id)⟩
    rw [hmem, mem_queue_enqueue, List.mem_cons, or_assoc]

/-! ### Recording an analysis -/

/-- What recording an analysis comes to. -/
structure Recorded (p : ConcretePass) (c : ConcreteState) (id : String) (a : Analysis)
    (c' : ConcreteState) : Prop where
  analyses : c'.analyses = c.analyses.set id a
  runs : c'.runs = c.runs
  failures : c'.failures = c.failures
  truncated : c'.truncated = c.truncated
  holds : ∀ id x i, c'.Holds id x i ↔ c.Holds id x i ∨ ∃ call ∈ a.seen.calls.values, p.Passes call id x i
  slots : ∀ id x, (c'.passed.getD id ∅).contains x = true →
    (c.passed.getD id ∅).contains x = true ∨ ∃ call ∈ a.seen.calls.values, ∃ g,
      p.program.functions.get? call.callee = some g ∧ g.id = id ∧ g.IsPassed x
  globalHolds : ∀ x i, c'.GlobalHolds x i ↔ c.GlobalHolds x i ∨
    ∃ name ∈ a.globals, a.Writes name ∧ x = .text name ∧ a.exit.Carries x i
  globalSlots : ∀ x, c'.globals.contains x = true → c.globals.contains x = true ∨
    ∃ name ∈ a.globals, a.Writes name ∧ x = .text name
  nodup : c.queue.Nodup → c'.queue.Nodup
  queued : ∀ id ∈ c.queue, id ∈ c'.queue
  changed : ∀ id, c'.passed.getD id ∅ = c.passed.getD id ∅ ∨ id ∈ c'.queue
  called : ∀ call ∈ a.seen.calls.values, ∀ g, p.program.functions.get? call.callee = some g →
    p.isUsable g.id = true → c.runsOf g.id = 0 → g.id ∈ c'.queue
  readers : ∀ name, c'.globals.getD (.text name) ∅ = c.globals.getD (.text name) ∅ ∨
    ∀ id r, c'.analyses.get? id = some r → name ∈ r.globals → id ∈ c'.queue
  origin : ∀ id ∈ c'.queue, id ∈ c.queue ∨ (∃ r, c'.analyses.get? id = some r) ∨
    ∃ call ∈ a.seen.calls.values, ∃ g, p.program.functions.get? call.callee = some g ∧ g.id = id ∧
      p.isUsable id = true

/-- After an analysis was recorded it is that of its function, and the others are what they were. -/
theorem Recorded.analyses_iff {id other : String} {r : Analysis} (h : p.Recorded c id a c') :
    c'.analyses.get? other = some r ↔
      (other = id ∧ r = a) ∨ (other ≠ id ∧ c.analyses.get? other = some r) := by
  rw [h.analyses, Table.get?_set]
  by_cases he : other = id
  · simp [he, eq_comm]
  · simp [he]

theorem recorded_record (p : ConcretePass) (c : ConcreteState) (id : String) (a : Analysis) :
    p.Recorded c id a (p.record c id a) := by
  have hcalls := p.passedCalls_foldl a.seen.calls.values { c with analyses := c.analyses.set id a } []
  generalize hstep : a.seen.calls.values.foldl p.passCall
    ({ c with analyses := c.analyses.set id a }, []) = step at hcalls
  obtain ⟨c₁, affected₁⟩ := step
  have hglobals := passedGlobals_foldl a a.globals.toList c₁ affected₁
  generalize hstep' : a.globals.toList.foldl (passGlobal a) (c₁, affected₁) = step at hglobals
  obtain ⟨c₂, affected₂⟩ := step
  obtain ⟨hrest, hqueue, hnodup⟩ := foldl_enqueue affected₂ c₂
  have hrecord : p.record c id a = affected₂.foldl ConcreteState.enqueue c₂ := by
    unfold record
    dsimp only
    rw [hstep, hstep']
  rw [hrecord]
  generalize affected₂.foldl ConcreteState.enqueue c₂ = c' at hrest hqueue hnodup
  dsimp only at hcalls hglobals
  have h₁ := hcalls.rest
  have h₂ := hglobals.rest
  have hanalyses₁ : c₁.analyses = c.analyses.set id a := by rw [h₁]
  have hanalyses : c'.analyses = c.analyses.set id a := by rw [hrest, h₂, h₁]
  have hpassed : c'.passed = c₁.passed := by rw [hrest, h₂]
  have hglobals' : c'.globals = c₂.globals := by rw [hrest]
  have hstart : c₁.globals = c.globals := by rw [h₁]
  have hqueue₂ : c₂.queue = c.queue := by rw [h₂, h₁]
  rw [hqueue₂] at hqueue hnodup
  exact {
    analyses := hanalyses
    runs := by rw [hrest, h₂, h₁]
    failures := by rw [hrest, h₂, h₁]
    truncated := by rw [hrest, h₂, h₁]
    holds := fun id x i => by
      have hholds : c'.Holds id x i ↔ c₁.Holds id x i := by rw [ConcreteState.Holds, hpassed]; rfl
      exact hholds.trans (hcalls.holds id x i)
    slots := fun id x hx => hcalls.slots id x (hpassed ▸ hx)
    globalHolds := fun x i => by
      have hholds : c'.GlobalHolds x i ↔ c₂.GlobalHolds x i := by
        rw [ConcreteState.GlobalHolds, hglobals']; rfl
      have hbefore : c₁.GlobalHolds x i ↔ c.GlobalHolds x i := by
        rw [ConcreteState.GlobalHolds, hstart]; rfl
      rw [hholds, hglobals.holds, hbefore]
      rfl
    globalSlots := fun x hx => by
      rw [hglobals'] at hx
      rw [← hstart]
      exact hglobals.slots x hx
    nodup := hnodup
    queued := fun id hid => (hqueue id).2 (Or.inl hid)
    changed := fun id => by
      rw [hpassed]
      exact (hcalls.changed id).imp_right fun hid => (hqueue id).2 (Or.inr (hglobals.kept id hid))
    called := fun call hcall g hg husable hruns =>
      (hqueue g.id).2 (Or.inr (hglobals.kept _ (hcalls.called call hcall g hg husable hruns)))
    readers := fun name => by
      rw [hglobals', hanalyses, ← hanalyses₁, ← hstart]
      exact (hglobals.readers name).imp_right fun hin id r hr hname =>
        (hqueue id).2 (Or.inr (hin id r hr hname))
    origin := fun id hid => by
      rw [hanalyses, ← hanalyses₁]
      rcases (hqueue id).1 hid with hid | hid
      · exact Or.inl hid
      · refine Or.inr ((hglobals.origin id hid).symm.imp_right fun hid => ?_)
        exact (hcalls.origin id hid).resolve_left List.not_mem_nil }

end ConcretePass

end TaintFlow
