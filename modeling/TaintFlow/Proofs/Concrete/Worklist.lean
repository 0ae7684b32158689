import Mathlib.Algebra.GroupWithZero.Nat
import Mathlib.Algebra.Order.BigOperators.Group.List
import Mathlib.Algebra.Order.Group.Nat
import Mathlib.Logic.Relation
import TaintFlow.Proofs.Concrete.Inputs

/-!
# Functions in any order

A pass may take the queued functions in any order (`ConcretePass.Pops`); the loop of the pass is one such
order.  Along every order an invariant holds (`ConcretePass.Invariant`): a function that is not queued was
analysed with what it would read now, and what an analysis found was passed on to functions that were
analysed or are queued.  The loop always has enough fuel to empty its queue (`completes_of_run`).
-/

namespace TaintFlow

namespace ConcreteState

/-- The function was taken off the queue before. -/
def HadTurn (c : ConcreteState) (id : String) : Prop := 0 < c.runsOf id ∨ id ∈ c.truncated

def Met (c : ConcreteState) (id : String) : Prop := id ∈ c.queue ∨ c.HadTurn id

/-- Nothing went wrong with the function. -/
def Sound (c : ConcreteState) (id : String) : Prop := id ∉ c.truncated ∧ c.failures.get? id = none

end ConcreteState

namespace ConcretePass

variable {p : ConcretePass} {c c' : ConcreteState} {id : String}

/-- A queued function is taken off the queue and analysed, whichever it is. -/
def Pops (p : ConcretePass) (c c' : ConcreteState) : Prop :=
  ∃ id ∈ c.queue, p.runOne { c with queue := c.queue.erase id } id = .ok c'

def Completes (p : ConcretePass) (c : ConcreteState) : Prop :=
  Relation.ReflTransGen p.Pops (.start p.entries) c ∧ c.queue = []

/-- What taking a function off the queue can come to. -/
theorem runOne_cases (h : p.runOne c id = .ok c') :
    (p.limits.maxRounds ≤ c.runsOf id ∧ c' = { c with truncated := c.truncated.insert id }) ∨
      ∃ f, p.program.functions.get? id = some f ∧ c.runsOf id < p.limits.maxRounds ∧
        ((∃ a, (p.frame f).analyze (.whole p.limits.maxVisits) (p.inputs c f) = .ok a ∧
            c' = p.record { c with runs := c.runs.set id (c.runsOf id + 1) } id a) ∨
          ∃ message, c' = { c with
            runs := c.runs.set id (c.runsOf id + 1)
            failures := c.failures.set id message }) := by
  unfold runOne at h
  split at h
  · next hrounds =>
    cases h
    exact Or.inl ⟨hrounds, rfl⟩
  · next hrounds =>
    refine Or.inr ?_
    split at h
    · cases h
    · next f hf =>
      refine ⟨f, hf, Nat.lt_of_not_le hrounds, ?_⟩
      dsimp only at h
      split at h
      · next a ha =>
        cases h
        exact Or.inl ⟨a, ha, rfl⟩
      · next fault _ =>
        split at h
        · cases h
          exact Or.inr ⟨fault.message, rfl⟩
        · cases h

/-- What holds between any two analyses. -/
structure Invariant (p : ConcretePass) (c : ConcreteState) : Prop where
  nodup : c.queue.Nodup
  queued : ∀ id ∈ c.queue, ∃ f, p.program.functions.get? id = some f
  slots : ∀ id f x, p.program.functions.get? id = some f →
    (c.passed.getD id ∅).contains x = true → f.IsPassed x
  entries : ∀ id ∈ p.entries, c.Met id
  finished : ∀ id, 0 < c.runsOf id →
    (∃ a, c.analyses.get? id = some a) ∨ ∃ message, c.failures.get? id = some message
  /-- An analysis belongs to a function, and mentions its globals. -/
  analysed : ∀ id a, c.analyses.get? id = some a → ∃ f, p.program.functions.get? id = some f ∧
    a.globals = f.globalsIn p.program.globals
  /-- A function that is not queued was analysed with what it would read now. -/
  fresh : ∀ id a, c.analyses.get? id = some a → id ∉ c.queue → c.Sound id → ∀ f,
    p.program.functions.get? id = some f →
      (p.frame f).analyze (.whole p.limits.maxVisits) (p.inputs c f) = .ok a
  called : ∀ id a, c.analyses.get? id = some a → ∀ call ∈ a.seen.calls.values, ∀ g,
    p.program.functions.get? call.callee = some g → p.isUsable g.id = true → c.Met g.id
  passed : ∀ id a, c.analyses.get? id = some a → ∀ call ∈ a.seen.calls.values, ∀ callee x i,
    p.Passes call callee x i → c.Holds callee x i
  written : ∀ id a, c.analyses.get? id = some a → ∀ name ∈ a.globals, a.Writes name → ∀ i,
    a.exit.Carries (.text name) i → c.GlobalHolds (.text name) i

/-! ### The entries -/

theorem mem_inOrder {names : List String} : id ∈ inOrder names ↔ id ∈ names := OrderedSet.mem_ofList

theorem entries_spec (p : ConcretePass) :
    p.entries.Nodup ∧ ∀ id ∈ p.entries, ∃ f, p.program.functions.get? id = some f := by
  have husable : ∀ {keep : String × Function → Bool} {id : String},
      id ∈ (p.program.functions.entries.filter keep).map Prod.fst →
        ∃ f, p.program.functions.get? id = some f := by
    intro keep id hid
    obtain ⟨⟨other, f⟩, hmem, rfl⟩ := List.mem_map.1 hid
    exact ⟨f, Table.mem_entries_iff.1 (List.mem_filter.1 hmem).1⟩
  unfold entries
  dsimp only
  split
  · refine ⟨OrderedSet.nodup_toList _, fun id hid => ?_⟩
    rw [mem_inOrder, List.filter_filter] at hid
    exact husable hid
  · split
    · refine ⟨?_, fun id hid => husable (of_decide_eq_true (List.mem_filter.1 hid).2)⟩
      exact (p.graph.callers.nodup_keys.sublist (List.filter_sublist.map Prod.fst)).filter _
    · exact ⟨OrderedSet.nodup_toList _, fun id hid => husable (mem_inOrder.1 hid)⟩

theorem invariant_start (p : ConcretePass) : p.Invariant (.start p.entries) := by
  have hruns : ∀ id, (ConcreteState.start p.entries).runsOf id = 0 := fun _ => rfl
  have hnone : ∀ id a, (ConcreteState.start p.entries).analyses.get? id ≠ some a := nofun
  exact {
    nodup := p.entries_spec.1
    queued := p.entries_spec.2
    slots := fun id f x _ hx => by cases hx
    entries := fun id hid => Or.inl hid
    finished := fun id hid => by
      rw [hruns] at hid
      exact absurd hid (Nat.lt_irrefl 0)
    analysed := fun id a ha => absurd ha (hnone id a)
    fresh := fun id a ha => absurd ha (hnone id a)
    called := fun id a ha => absurd ha (hnone id a)
    passed := fun id a ha => absurd ha (hnone id a)
    written := fun id a ha => absurd ha (hnone id a) }

/-! ### One more function -/

theorem met_of_popped (hqueue : ∀ other ∈ c.queue, other = id ∨ other ∈ c'.queue)
    (hturn : ∀ other, other = id ∨ c.HadTurn other → c'.HadTurn other) {other : String}
    (h : c.Met other) : c'.Met other := by
  rcases h with hq | ht
  · exact (hqueue other hq).elim (fun he => Or.inr (hturn other (Or.inl he))) Or.inl
  · exact Or.inr (hturn other (Or.inr ht))

theorem hadTurn_of_runs {n : Nat}
    (hruns : ∀ other, c'.runsOf other = if other = id then n + 1 else c.runsOf other)
    (htruncated : c'.truncated = c.truncated) {other : String} (h : other = id ∨ c.HadTurn other) :
    c'.HadTurn other := by
  unfold ConcreteState.HadTurn
  rw [hruns, htruncated]
  split
  · exact Or.inl (Nat.succ_pos n)
  · next hne => exact h.resolve_left hne

theorem eq_or_mem_erase {queue : List String} {other : String} (h : other ∈ queue) :
    other = id ∨ other ∈ queue.erase id :=
  or_iff_not_imp_left.2 fun hne => (List.mem_erase_of_ne hne).2 h

theorem Invariant.truncate (h : p.Invariant c) (id : String) :
    p.Invariant { c with queue := c.queue.erase id, truncated := c.truncated.insert id } := by
  have hmet : ∀ {other}, c.Met other → ConcreteState.Met
      { c with queue := c.queue.erase id, truncated := c.truncated.insert id } other := by
    refine met_of_popped (fun other => eq_or_mem_erase) ?_
    rintro other (he | hr | ht)
    · exact Or.inr (OrderedSet.mem_insert.2 (Or.inl he))
    · exact Or.inl hr
    · exact Or.inr (OrderedSet.mem_insert.2 (Or.inr ht))
  exact {
    nodup := h.nodup.erase id
    queued := fun other ho => h.queued other (List.mem_of_mem_erase ho)
    slots := h.slots
    entries := fun other ho => hmet (h.entries other ho)
    finished := h.finished
    analysed := h.analysed
    fresh := fun other a ha hq hsound => by
      have hnot := fun hmem => hsound.1 (OrderedSet.mem_insert.2 hmem)
      refine h.fresh other a ha (fun hin => hq ?_) ⟨fun hmem => hnot (Or.inr hmem), hsound.2⟩
      exact (eq_or_mem_erase hin).resolve_left fun he => hnot (Or.inl he)
    called := fun other a ha call hcall g hg husable => hmet (h.called other a ha call hcall g hg husable)
    passed := h.passed
    written := h.written }

/-- A function whose analysis fails leaves its message, and what was found before stays. -/
theorem Invariant.fail (h : p.Invariant c) (id message : String) (n : Nat) :
    p.Invariant { c with
      queue := c.queue.erase id
      runs := c.runs.set id (n + 1)
      failures := c.failures.set id message } := by
  have hruns : ∀ other, ConcreteState.runsOf { c with
      queue := c.queue.erase id
      runs := c.runs.set id (n + 1)
      failures := c.failures.set id message } other = if other = id then n + 1 else c.runsOf other :=
    fun other => OrderedMap.getD_set _ _ _ _ _
  have hmet : ∀ {other}, c.Met other → ConcreteState.Met { c with
      queue := c.queue.erase id
      runs := c.runs.set id (n + 1)
      failures := c.failures.set id message } other :=
    met_of_popped (fun other => eq_or_mem_erase) fun other => hadTurn_of_runs hruns rfl
  exact {
    nodup := h.nodup.erase id
    queued := fun other ho => h.queued other (List.mem_of_mem_erase ho)
    slots := h.slots
    entries := fun other ho => hmet (h.entries other ho)
    finished := fun other ho => by
      rw [hruns] at ho
      rw [OrderedMap.get?_set]
      by_cases he : other = id
      · exact Or.inr ⟨message, if_pos he⟩
      · rw [if_neg he] at ho ⊢
        exact h.finished other ho
    analysed := h.analysed
    fresh := fun other a ha hq hsound => by
      have hnone := hsound.2
      rw [OrderedMap.get?_set] at hnone
      by_cases he : other = id
      · rw [if_pos he] at hnone
        cases hnone
      · rw [if_neg he] at hnone
        refine h.fresh other a ha (fun hin => hq ?_) ⟨hsound.1, hnone⟩
        exact (eq_or_mem_erase hin).resolve_left he
    called := fun other a ha call hcall g hg husable => hmet (h.called other a ha call hcall g hg husable)
    passed := h.passed
    written := h.written }

theorem Invariant.analysed_record (h : p.Invariant c) {f : Function} {a : Analysis} {n : Nat}
    (hf : p.program.functions.get? id = some f)
    (ha : (p.frame f).analyze (.whole p.limits.maxVisits) (p.inputs c f) = .ok a)
    (hc : p.Recorded { c with queue := c.queue.erase id, runs := c.runs.set id (n + 1) } id a c')
    {other : String} {r : Analysis} (hr : c'.analyses.get? other = some r) :
    ∃ g, p.program.functions.get? other = some g ∧ r.globals = g.globalsIn p.program.globals := by
  rcases hc.analyses_iff.1 hr with ⟨rfl, rfl⟩ | ⟨-, hr⟩
  · have hglobals := Frame.globals_of_analyze ha
    exact ⟨f, hf, hglobals⟩
  · exact h.analysed other r hr

/-- A function that is analysed and not queued reads what it read before. -/
theorem Recorded.inputs_eq {a : Analysis} (hc : p.Recorded c id a c')
    {f : Function} (hid : f.id ∉ c'.queue) {r : Analysis} (hr : c'.analyses.get? f.id = some r)
    (hglobals : r.globals = f.globalsIn p.program.globals) : p.inputs c' f = p.inputs c f := by
  refine inputs_congr ((hc.changed f.id).resolve_right hid) fun name hname => ?_
  refine (hc.readers name).resolve_right fun hin => hid (hin f.id r hr ?_)
  rw [hglobals]
  exact hname

/-- An analysis is recorded, and whoever reads what it passes on is queued. -/
theorem Invariant.record (h : p.Invariant c) (hkeyed : p.program.WellKeyed) {f : Function} {a : Analysis}
    {n : Nat} (hf : p.program.functions.get? id = some f)
    (ha : (p.frame f).analyze (.whole p.limits.maxVisits) (p.inputs c f) = .ok a)
    (hc : p.Recorded { c with queue := c.queue.erase id, runs := c.runs.set id (n + 1) } id a c') :
    p.Invariant c' := by
  have hruns : ∀ other, c'.runsOf other = if other = id then n + 1 else c.runsOf other := by
    intro other
    unfold ConcreteState.runsOf
    rw [hc.runs]
    exact OrderedMap.getD_set _ _ _ _ _
  have hqueue : ∀ other ∈ c.queue, other = id ∨ other ∈ c'.queue := fun other ho =>
    (eq_or_mem_erase ho).imp_right (hc.queued other)
  have hmet : ∀ {other}, c.Met other → c'.Met other :=
    met_of_popped hqueue fun other => hadTurn_of_runs hruns hc.truncated
  have hcallee : ∀ {call : CallObservation} {g : Function},
      p.program.functions.get? call.callee = some g → p.program.functions.get? g.id = some g := by
    intro call g hg
    rw [hkeyed _ _ hg]
    exact hg
  exact {
    nodup := hc.nodup (h.nodup.erase id)
    queued := fun other ho => by
      rcases hc.origin other ho with hin | ⟨r, hr⟩ | ⟨call, -, g, hg, rfl, -⟩
      · exact h.queued other (List.mem_of_mem_erase hin)
      · obtain ⟨g, hg, -⟩ := h.analysed_record hf ha hc hr
        exact ⟨g, hg⟩
      · exact ⟨g, hcallee hg⟩
    slots := fun other g x hg hx => by
      rcases hc.slots other x hx with hin | ⟨call, -, g', hg', rfl, hslot⟩
      · exact h.slots other g x hg hin
      · obtain rfl : g' = g := Option.some.inj ((hcallee hg').symm.trans hg)
        exact hslot
    entries := fun other ho => hmet (h.entries other ho)
    finished := fun other ho => by
      by_cases he : other = id
      · exact Or.inl ⟨a, hc.analyses_iff.2 (Or.inl ⟨he, rfl⟩)⟩
      · rw [hruns, if_neg he] at ho
        rw [hc.failures]
        exact (h.finished other ho).imp_left fun ⟨r, hr⟩ => ⟨r, hc.analyses_iff.2 (Or.inr ⟨he, hr⟩)⟩
    analysed := fun other r hr => h.analysed_record hf ha hc hr
    fresh := fun other r hr hq hsound g hg => by
      obtain ⟨g', hg', hmentions⟩ := h.analysed_record hf ha hc hr
      obtain rfl : g = g' := Option.some.inj (hg.symm.trans hg')
      obtain rfl : g.id = other := hkeyed _ _ hg
      have hinputs : p.inputs c' g = p.inputs c g := hc.inputs_eq hq hr hmentions
      rw [hinputs]
      rcases hc.analyses_iff.1 hr with ⟨rfl, rfl⟩ | ⟨he, hr⟩
      · obtain rfl : f = g := Option.some.inj (hf.symm.trans hg)
        exact ha
      · unfold ConcreteState.Sound at hsound
        rw [hc.truncated, hc.failures] at hsound
        exact h.fresh _ r hr (fun hin => hq ((hqueue _ hin).resolve_left he)) hsound g hg
    called := fun other r hr call hcall g hg husable => by
      rcases hc.analyses_iff.1 hr with ⟨rfl, rfl⟩ | ⟨-, hr⟩
      · rcases Nat.eq_zero_or_pos (c'.runsOf g.id) with hzero | hpos
        · refine Or.inl (hc.called call hcall g hg husable ?_)
          rw [← hzero]
          unfold ConcreteState.runsOf
          rw [hc.runs]
        · exact Or.inr (Or.inl hpos)
      · exact hmet (h.called other r hr call hcall g hg husable)
    passed := fun other r hr call hcall callee x i hpasses => by
      rcases hc.analyses_iff.1 hr with ⟨rfl, rfl⟩ | ⟨-, hr⟩
      · exact (hc.holds callee x i).2 (Or.inr ⟨call, hcall, hpasses⟩)
      · exact (hc.holds callee x i).2 (Or.inl (h.passed other r hr call hcall callee x i hpasses))
    written := fun other r hr name hname hwrites i hi => by
      rcases hc.analyses_iff.1 hr with ⟨rfl, rfl⟩ | ⟨-, hr⟩
      · exact (hc.globalHolds (.text name) i).2 (Or.inr ⟨name, hname, hwrites, rfl, hi⟩)
      · exact (hc.globalHolds (.text name) i).2 (Or.inl (h.written other r hr name hname hwrites i hi)) }

/-- **Whichever queued function is taken, the invariant holds on.** -/
theorem Invariant.pops (h : p.Invariant c) (hkeyed : p.program.WellKeyed) (hpops : p.Pops c c') :
    p.Invariant c' := by
  obtain ⟨id, -, hrun⟩ := hpops
  rcases runOne_cases hrun with ⟨-, rfl⟩ | ⟨f, hf, -, ⟨a, ha, rfl⟩ | ⟨message, rfl⟩⟩
  · exact h.truncate id
  · exact h.record hkeyed hf ha (p.recorded_record _ id a)
  · exact h.fail id message _

theorem invariant_of_pops (hkeyed : p.program.WellKeyed)
    (h : Relation.ReflTransGen p.Pops (.start p.entries) c) : p.Invariant c := by
  induction h with
  | refl => exact p.invariant_start
  | tail _ hstep ih => exact ih.pops hkeyed hstep

theorem analysed_of_pops (h : Relation.ReflTransGen p.Pops (.start p.entries) c) {id : String}
    {a : Analysis} (ha : c.analyses.get? id = some a) : ∃ f inputs, p.program.functions.get? id = some f ∧
      (p.frame f).analyze (.whole p.limits.maxVisits) inputs = .ok a := by
  induction h generalizing id a with
  | refl => cases ha
  | tail _ hstep ih =>
    obtain ⟨popped, -, hrun⟩ := hstep
    rcases runOne_cases hrun with ⟨-, rfl⟩ | ⟨f, hf, -, ⟨b, hb, rfl⟩ | ⟨message, rfl⟩⟩
    · exact ih ha
    · rcases (p.recorded_record _ popped b).analyses_iff.1 ha with ⟨rfl, rfl⟩ | ⟨-, ha⟩
      · exact ⟨f, _, hf, hb⟩
      · exact ih ha
    · exact ih ha

/-- Every global that the table of a pass has was written in some analysis. -/
theorem written_of_pops (h : Relation.ReflTransGen p.Pops (.start p.entries) c) {x : Slot}
    (hx : c.globals.contains x = true) : ∃ id f inputs a name, p.program.functions.get? id = some f ∧
      (p.frame f).analyze (.whole p.limits.maxVisits) inputs = .ok a ∧ name ∈ a.globals ∧
      a.Writes name ∧ x = .text name := by
  induction h with
  | refl => cases hx
  | tail _ hstep ih =>
    obtain ⟨popped, -, hrun⟩ := hstep
    rcases runOne_cases hrun with ⟨-, rfl⟩ | ⟨f, hf, -, ⟨a, ha, rfl⟩ | ⟨message, rfl⟩⟩
    · exact ih hx
    · rcases (p.recorded_record _ popped a).globalSlots x hx with hbefore | ⟨name, hname, hwrites, he⟩
      · exact ih hbefore
      · exact ⟨popped, f, _, a, name, hf, ha, hname, hwrites, he⟩
    · exact ih hx

/-! ### Enough fuel -/

/-- How often the functions of a program may still be analysed, in all. -/
def turnsLeft (p : ConcretePass) (c : ConcreteState) : Nat :=
  (p.program.functions.keys.map fun id => p.limits.maxRounds - c.runsOf id).sum

/-- How many functions can be taken off the queue, at most. -/
def capacity (p : ConcretePass) (c : ConcreteState) : Nat :=
  c.queue.length + p.program.functions.size * p.turnsLeft c

theorem Invariant.length_queue_le (h : p.Invariant c) : c.queue.length ≤ p.program.functions.size := by
  have hsub : c.queue.Subperm p.program.functions.keys :=
    List.subperm_of_subset h.nodup fun id hid => Table.mem_keys_iff.2 (h.queued id hid)
  have hlength := hsub.length_le
  rwa [Table.keys, List.length_map] at hlength

theorem turnsLeft_lt (hid : id ∈ p.program.functions.keys) (hrounds : c.runsOf id < p.limits.maxRounds)
    (hruns : ∀ other, c'.runsOf other = if other = id then c.runsOf id + 1 else c.runsOf other) :
    p.turnsLeft c' < p.turnsLeft c := by
  refine List.sum_lt_sum _ _ (fun other _ => ?_) ⟨id, hid, ?_⟩
  · rw [hruns]
    split
    · next he =>
      subst he
      omega
    · exact Nat.le_refl _
  · rw [hruns, if_pos rfl]
    omega

/-- Taking a function off the queue leaves less to do. -/
theorem Invariant.capacity_lt (h : p.Invariant c) (hkeyed : p.program.WellKeyed) (hpops : p.Pops c c') :
    p.capacity c' < p.capacity c := by
  have hqueue := (h.pops hkeyed hpops).length_queue_le
  obtain ⟨id, hid, hrun⟩ := hpops
  have hpos : 0 < c.queue.length := List.length_pos_of_mem hid
  have hless : ∀ c', p.turnsLeft c' < p.turnsLeft c → c'.queue.length ≤ p.program.functions.size →
      p.capacity c' < p.capacity c := by
    intro c' hturns hqueue
    have hmul := Nat.mul_le_mul_left p.program.functions.size (Nat.succ_le_of_lt hturns)
    rw [Nat.mul_succ] at hmul
    unfold capacity
    omega
  rcases runOne_cases hrun with ⟨-, rfl⟩ | ⟨f, hf, hrounds, ⟨a, -, rfl⟩ | ⟨message, rfl⟩⟩
  · have hlength := List.length_erase_of_mem hid
    unfold capacity
    dsimp only
    have hsame : p.turnsLeft { c with queue := c.queue.erase id, truncated := c.truncated.insert id } =
        p.turnsLeft c := rfl
    rw [hsame]
    omega
  · refine hless _ (turnsLeft_lt (Table.mem_keys_iff.2 ⟨f, hf⟩) hrounds fun other => ?_) hqueue
    unfold ConcreteState.runsOf
    rw [(p.recorded_record _ id a).runs]
    exact OrderedMap.getD_set _ _ _ _ _
  · exact hless _ (turnsLeft_lt (Table.mem_keys_iff.2 ⟨f, hf⟩) hrounds fun other =>
      OrderedMap.getD_set _ _ _ _ _) hqueue

theorem capacity_start (p : ConcretePass) : p.capacity (.start p.entries) < p.fuel := by
  have hqueue := p.invariant_start.length_queue_le
  have hturns : p.turnsLeft (.start p.entries) = p.program.functions.size * p.limits.maxRounds := by
    have hruns : ∀ id, p.limits.maxRounds - (ConcreteState.start p.entries).runsOf id =
        p.limits.maxRounds := fun _ => rfl
    unfold turnsLeft
    simp only [hruns, List.map_const', List.sum_replicate_nat, Table.keys, List.length_map]
    rfl
  unfold capacity fuel
  dsimp only
  rw [hturns]
  have hcomm : p.program.functions.size * (p.program.functions.size * p.limits.maxRounds) =
      p.program.functions.size * p.limits.maxRounds * p.program.functions.size := Nat.mul_comm _ _
  omega

theorem completes_of_loop (hkeyed : p.program.WellKeyed) {fuel : Nat} {allowance : Allowance}
    (hinv : p.Invariant c) (hfuel : p.capacity c < fuel) (h : p.loop fuel c allowance = .ok c') :
    Relation.ReflTransGen p.Pops c c' ∧ c'.queue = [] := by
  induction fuel generalizing c allowance with
  | zero => exact absurd hfuel (Nat.not_lt_zero _)
  | succ fuel ih =>
    unfold loop at h
    split at h
    · next hqueue =>
      cases h
      exact ⟨.refl, hqueue⟩
    · next id queue hqueue =>
      obtain ⟨left, -, h⟩ := Result.exists_of_bind_eq_ok h
      obtain ⟨next, hrun, h⟩ := Result.exists_of_bind_eq_ok h
      have hpops : p.Pops c next := by
        refine ⟨id, ?_, ?_⟩
        · rw [hqueue]
          exact List.mem_cons_self
        · rw [hqueue, List.erase_cons_head]
          exact hrun
      obtain ⟨hrest, hempty⟩ := ih (hinv.pops hkeyed hpops)
        (Nat.lt_of_lt_of_le (hinv.capacity_lt hkeyed hpops) (Nat.le_of_lt_succ hfuel)) h
      exact ⟨.head hpops hrest, hempty⟩

theorem finish_eq (p : ConcretePass) (c : ConcreteState) : p.finish c =
    if c.truncated.isEmpty = true ∨ p.limits.maxRounds < Nat.pow 10 digitLimit then .ok c
    else .error (.invalid .unshowable) := by
  have hshown : (Document.whole p.limits.maxRounds).showable =
      if p.limits.maxRounds < Nat.pow 10 digitLimit then .ok (.whole p.limits.maxRounds)
      else .error (.invalid .unshowable) := rfl
  rw [finish, hshown]
  by_cases hnone : c.truncated.isEmpty = true
  · rw [if_pos hnone, if_pos (Or.inl hnone)]
  · rw [if_neg hnone]
    by_cases hfew : p.limits.maxRounds < Nat.pow 10 digitLimit
    · rw [if_pos hfew, if_pos (Or.inr hfew)]
      rfl
    · rw [if_neg hfew, if_neg (not_or.2 ⟨hnone, hfew⟩)]
      rfl

theorem eq_of_finish {c' : ConcreteState} (h : p.finish c = .ok c') : c = c' := by
  rw [finish_eq] at h
  split at h
  · exact Except.ok.inj h
  · cases h

/-- **A run that returns has emptied its queue.** -/
theorem completes_of_run (hkeyed : p.program.WellKeyed) {allowance : Allowance}
    (h : p.run allowance = .ok c) : p.Completes c := by
  obtain ⟨last, hloop, hfinish⟩ := Result.exists_of_bind_eq_ok h
  exact completes_of_loop hkeyed p.invariant_start p.capacity_start (eq_of_finish hfinish ▸ hloop)

end ConcretePass

end TaintFlow
