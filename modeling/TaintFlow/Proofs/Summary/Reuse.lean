import TaintFlow.Proofs.Summary.Ready

/-!
# Resolutions that know earlier summaries

A component of which every member can be reused is taken over, any other one is summarised.  Whether a
member can be reused depends only on what was summarised anew in lower layers, so a layer splits into the
components that are taken over and those that are left (`reuseLayer_eq_partition`).  Every component is
settled once, and what it was settled from is still published in the end (`stage_of_foldlM`).
-/

namespace TaintFlow

/-! ### What a step leaves alone -/

/-- The second resolution says of a function what the first one says. -/
structure Resolution.SameAt (res res' : Resolution) (id : String) : Prop where
  summary : res'.summaries.get? id = res.summaries.get? id
  failure : res'.failures.get? id = res.failures.get? id
  recomputed : id ∈ res'.recomputed ↔ id ∈ res.recomputed
  reused : id ∈ res'.reused ↔ id ∈ res.reused

namespace Resolution

variable {res res' res'' : Resolution} {id : String}

theorem SameAt.refl (res : Resolution) (id : String) : res.SameAt res id :=
  ⟨rfl, rfl, Iff.rfl, Iff.rfl⟩

theorem SameAt.trans (h : res.SameAt res' id) (h' : res'.SameAt res'' id) : res.SameAt res'' id :=
  ⟨h'.summary.trans h.summary, h'.failure.trans h.failure, h'.recomputed.trans h.recomputed,
    h'.reused.trans h.reused⟩

/-- The second resolution has published a summary, and nothing else that concerns its function. -/
structure Publishes (res res' : Resolution) (s : Summary) : Prop where
  summary : res'.summaries.get? s.function = some s
  failure : res'.failures.get? s.function =
    if s.unknown then some (s.error.getD "unknown failure") else res.failures.get? s.function
  recomputed : s.function ∈ res'.recomputed
  reused : s.function ∈ res'.reused ↔ s.function ∈ res.reused

theorem Publishes.after {s : Summary} (h : res'.Publishes res'' s) (h' : res.SameAt res' s.function) :
    res.Publishes res'' s :=
  ⟨h.summary, by rw [h.failure, h'.failure], h.recomputed, h.reused.trans h'.reused⟩

theorem Publishes.same {s : Summary} (h : res.Publishes res' s) (h' : res'.SameAt res'' s.function) :
    res.Publishes res'' s :=
  ⟨h'.summary.trans h.summary, h'.failure.trans h.failure, h'.recomputed.2 h.recomputed,
    h'.reused.trans h.reused⟩

theorem publishes_publish (res : Resolution) (s : Summary) : res.Publishes (res.publish s) s where
  summary := OrderedMap.get?_set_self _ _ _
  failure := by
    unfold publish
    cases s.unknown <;> simp
  recomputed := OrderedSet.mem_insert.2 (Or.inl rfl)
  reused := Iff.rfl

theorem sameAt_publish (res : Resolution) {s : Summary} (h : id ≠ s.function) :
    res.SameAt (res.publish s) id where
  summary := OrderedMap.get?_set_ne _ _ h
  failure := by
    unfold publish
    cases s.unknown
    · rfl
    · exact OrderedMap.get?_set_ne _ _ h
  recomputed := OrderedSet.mem_insert.trans (or_iff_right h)
  reused := Iff.rfl

theorem sameAt_foldl_publish {results : List Summary} (res : Resolution)
    (h : ∀ s ∈ results, s.function ≠ id) : res.SameAt (results.foldl publish res) id := by
  induction results generalizing res with
  | nil => exact .refl res id
  | cons s rest ih =>
    exact (sameAt_publish res (h s List.mem_cons_self).symm).trans
      (ih (res.publish s) fun t ht => h t (List.mem_cons_of_mem s ht))

/-- Of summaries of different functions each one is published. -/
theorem publishes_foldl_publish {results : List Summary} (res : Resolution)
    (hnodup : (results.map Summary.function).Nodup) {s : Summary} (hs : s ∈ results) :
    res.Publishes (results.foldl publish res) s := by
  induction results generalizing res with
  | nil => exact absurd hs List.not_mem_nil
  | cons t rest ih =>
    rw [List.map_cons, List.nodup_cons] at hnodup
    have hnot : ∀ u ∈ rest, u.function ≠ t.function := fun u hu he =>
      hnodup.1 (List.mem_map.2 ⟨u, hu, he⟩)
    rw [List.foldl_cons]
    rcases List.mem_cons.1 hs with rfl | hs
    · exact (publishes_publish res s).same (sameAt_foldl_publish _ hnot)
    · exact (ih (res.publish t) hnodup.2 hs).after (sameAt_publish res (hnot s hs))

end Resolution

namespace Resolver

variable {r : Resolver} {res res' : Resolution} {c : Names} {id : String}

/-! ### Taking components over -/

def inherit (r : Resolver) (res : Resolution) (id : String) : Resolution :=
  match r.previous.get? id with
  | some old => { res with
      summaries := res.summaries.set id old
      reused := res.reused.insert id }
  | none => res

def takesOver (r : Resolver) (res : Resolution) (c : Names) : Bool :=
  c.toList.all (r.canReuse res c)

theorem reuse?_eq (r : Resolver) (res : Resolution) (c : Names) :
    r.reuse? res c = if r.takesOver res c then some (c.toList.foldl r.inherit res) else none := rfl

theorem canReuse_iff : r.canReuse res c id = true ↔
    ∃ f old, r.program.functions.get? id = some f ∧ r.previous.get? id = some old ∧
      old.unknown = false ∧ old.contentHash = f.contentHash ∧
      ∀ callee, r.graph.callees.Edge id callee → callee ∈ c ∨ callee ∉ res.recomputed := by
  unfold canReuse
  cases hf : r.program.functions.get? id with
  | none => simp
  | some f =>
    cases hold : r.previous.get? id with
    | none => simp
    | some old => simp [Graph.Edge, OrderedSet.mem_def, and_assoc]

theorem takesOver_iff : r.takesOver res c = true ↔ ∀ id ∈ c, r.canReuse res c id = true := by
  simp [takesOver, OrderedSet.mem_def]

/-- It matters only which functions that the component calls were summarised anew. -/
theorem takesOver_congr (h : ∀ id ∈ c, ∀ callee, r.graph.callees.Edge id callee → callee ∉ c →
    (callee ∈ res'.recomputed ↔ callee ∈ res.recomputed)) :
    r.takesOver res' c = r.takesOver res c := by
  have himp : ∀ {res res' : Resolution}, (∀ id ∈ c, ∀ callee, r.graph.callees.Edge id callee →
      callee ∉ c → (callee ∈ res'.recomputed ↔ callee ∈ res.recomputed)) →
      r.takesOver res' c = true → r.takesOver res c = true := by
    intro res res' h htake
    rw [takesOver_iff] at htake ⊢
    intro id hid
    obtain ⟨f, old, hf, hold, hknown, hhash, hcallees⟩ := canReuse_iff.1 (htake id hid)
    refine canReuse_iff.2 ⟨f, old, hf, hold, hknown, hhash, fun callee hedge => ?_⟩
    by_cases hin : callee ∈ c
    · exact Or.inl hin
    · exact (hcallees callee hedge).imp_right fun hnot hmem =>
        hnot ((h id hid callee hedge hin).2 hmem)
  exact Bool.eq_iff_iff.2 ⟨himp h, himp fun id hid callee hedge hin => (h id hid callee hedge hin).symm⟩

/-- The earlier summary of a function was published, and nothing else that concerns it. -/
structure Inherits (r : Resolver) (res res' : Resolution) (id : String) : Prop where
  summary : res'.summaries.get? id = r.previous.get? id
  failure : res'.failures.get? id = res.failures.get? id
  recomputed : id ∈ res'.recomputed ↔ id ∈ res.recomputed
  reused : id ∈ res'.reused

theorem Inherits.same {res'' : Resolution} (h : r.Inherits res res' id) (h' : res'.SameAt res'' id) :
    r.Inherits res res'' id :=
  ⟨h'.summary.trans h.summary, h'.failure.trans h.failure, h'.recomputed.trans h.recomputed,
    h'.reused.2 h.reused⟩

theorem Inherits.after {res'' : Resolution} (h : r.Inherits res' res'' id) (h' : res.SameAt res' id) :
    r.Inherits res res'' id :=
  ⟨h.summary, h.failure.trans h'.failure, h.recomputed.trans h'.recomputed, h.reused⟩

theorem sameAt_inherit (res : Resolution) {other : String} (h : id ≠ other) :
    res.SameAt (r.inherit res other) id := by
  unfold inherit
  cases r.previous.get? other with
  | none => exact .refl res id
  | some old =>
    exact ⟨OrderedMap.get?_set_ne _ _ h, rfl, Iff.rfl, OrderedSet.mem_insert.trans (or_iff_right h)⟩

theorem inherits_inherit (res : Resolution) {old : Summary} (hold : r.previous.get? id = some old) :
    r.Inherits res (r.inherit res id) id := by
  unfold inherit
  rw [hold]
  exact ⟨(OrderedMap.get?_set_self _ _ _).trans hold.symm, rfl, Iff.rfl,
    OrderedSet.mem_insert.2 (Or.inl rfl)⟩

theorem recomputed_inherit (res : Resolution) (id : String) :
    (r.inherit res id).recomputed = res.recomputed := by
  unfold inherit
  cases r.previous.get? id <;> rfl

theorem recomputed_foldl_inherit (ids : List String) (res : Resolution) :
    (ids.foldl r.inherit res).recomputed = res.recomputed := by
  induction ids generalizing res with
  | nil => rfl
  | cons id rest ih => rw [List.foldl_cons, ih, recomputed_inherit]

theorem sameAt_foldl_inherit {ids : List String} (res : Resolution) (h : id ∉ ids) :
    res.SameAt (ids.foldl r.inherit res) id := by
  induction ids generalizing res with
  | nil => exact .refl res id
  | cons other rest ih =>
    rw [List.mem_cons, not_or] at h
    exact (sameAt_inherit res h.1).trans (ih _ h.2)

theorem inherits_foldl_inherit {ids : List String} (res : Resolution) {old : Summary}
    (hold : r.previous.get? id = some old) (h : id ∈ ids) :
    r.Inherits res (ids.foldl r.inherit res) id := by
  induction ids generalizing res with
  | nil => exact absurd h List.not_mem_nil
  | cons other rest ih =>
    rw [List.foldl_cons]
    by_cases hrest : id ∈ rest
    · have hnext := ih (r.inherit res other) hrest
      by_cases he : id = other
      · subst he
        have hfirst := inherits_inherit res hold
        exact ⟨hnext.summary, hnext.failure.trans hfirst.failure,
          hnext.recomputed.trans hfirst.recomputed, hnext.reused⟩
      · exact hnext.after (sameAt_inherit res he)
    · obtain rfl : id = other := (List.mem_cons.1 h).resolve_right hrest
      exact (inherits_inherit res hold).same (sameAt_foldl_inherit _ hrest)

/-! ### One layer -/

/-- Which components are taken over does not depend on those that were taken over before. -/
theorem foldl_reuse_eq_partition {res now : Resolution} (hnow : now.recomputed = res.recomputed)
    (cs left : List Names) :
    cs.foldl (fun (res, left) c =>
      match r.reuse? res c with
      | some res => (res, left)
      | none => (res, left ++ [c])) (now, left) =
    (((cs.filter (r.takesOver res)).flatMap OrderedSet.toList).foldl r.inherit now,
      left ++ cs.filter (fun c => !r.takesOver res c)) := by
  induction cs generalizing now left with
  | nil => simp
  | cons c rest ih =>
    have htake : r.takesOver now c = r.takesOver res c :=
      takesOver_congr fun id _ callee _ _ => by rw [hnow]
    rw [List.foldl_cons, List.filter_cons, List.filter_cons]
    dsimp only
    rw [reuse?_eq, htake]
    cases r.takesOver res c with
    | true =>
      simp only [if_true, Bool.not_true, Bool.false_eq_true, if_false, List.flatMap_cons,
        List.foldl_append]
      exact ih ((recomputed_foldl_inherit _ _).trans hnow) left
    | false =>
      simp only [Bool.false_eq_true, if_false, Bool.not_false, if_true]
      rw [ih hnow, List.append_assoc, List.singleton_append]

/-- **A layer splits** into the components that are taken over and those that are left. -/
theorem reuseLayer_eq_partition (r : Resolver) (res : Resolution) (pending : List Names) :
    r.reuseLayer res pending =
      (((pending.filter (r.takesOver res)).flatMap OrderedSet.toList).foldl r.inherit res,
        pending.filter (fun c => !r.takesOver res c)) :=
  foldl_reuse_eq_partition rfl pending []

/-- Some member is summarised, and all members can be reused. -/
def Inherited (r : Resolver) (res : Resolution) (c : Names) : Prop :=
  (∃ id ∈ c, id ∈ r.valid) ∧ r.takesOver res c = true

/-- What is published when the components of a layer that can be taken over have been. -/
def base (r : Resolver) (res : Resolution) (layer : List Names) : Resolution :=
  (((r.pendingOf layer).filter (r.takesOver res)).flatMap OrderedSet.toList).foldl r.inherit res

def leftOf (r : Resolver) (res : Resolution) (layer : List Names) : List Names :=
  (r.pendingOf layer).filter (fun c => !r.takesOver res c)

theorem resolveLayer_eq (r : Resolver) (res : Resolution) (layer : List Names) :
    r.resolveLayer res layer = do
      let results ← (r.leftOf res layer).mapM (r.summarizeComponent (r.base res layer).summaries)
      return results.flatten.foldl Resolution.publish (r.base res layer) := by
  have h : r.resolveLayer res layer = (do
      let results ← (r.reuseLayer res (r.pendingOf layer)).2.mapM
        (r.summarizeComponent (r.reuseLayer res (r.pendingOf layer)).1.summaries)
      return results.flatten.foldl Resolution.publish (r.reuseLayer res (r.pendingOf layer)).1) := rfl
  rw [h, reuseLayer_eq_partition]
  rfl

/-- A layer of which everything can be taken over is not summarised at all. -/
theorem resolveLayer_of_takesOver {layer : List Names}
    (h : ∀ c ∈ layer, (∃ id ∈ c, id ∈ r.valid) → r.takesOver res c = true) :
    r.resolveLayer res layer = .ok (r.base res layer) := by
  have hleft : r.leftOf res layer = [] := by
    refine List.filter_eq_nil_iff.2 fun c hc => ?_
    obtain ⟨hc, hpending⟩ := mem_pendingOf_iff.1 hc
    simp [h c hc hpending]
  rw [resolveLayer_eq, hleft]
  rfl

theorem sameAt_base {layer : List Names} (h : ∀ c ∈ layer, id ∈ c → ¬ r.Inherited res c) :
    res.SameAt (r.base res layer) id := by
  refine sameAt_foldl_inherit res fun hmem => ?_
  obtain ⟨c, hc, hid⟩ := List.mem_flatMap.1 hmem
  obtain ⟨hc, htake⟩ := List.mem_filter.1 hc
  obtain ⟨hc, hvalid⟩ := mem_pendingOf_iff.1 hc
  exact h c hc hid ⟨hvalid, htake⟩

theorem inherits_base {layer : List Names} (hc : c ∈ layer) (hid : id ∈ c)
    (h : r.Inherited res c) : r.Inherits res (r.base res layer) id := by
  obtain ⟨f, old, -, hold, -⟩ := canReuse_iff.1 (takesOver_iff.1 h.2 id hid)
  refine inherits_foldl_inherit res hold (List.mem_flatMap.2 ⟨c, ?_, hid⟩)
  exact List.mem_filter.2 ⟨mem_pendingOf_iff.2 ⟨hc, h.1⟩, h.2⟩

/-- What summarising a function can come to, whatever is known of the functions that it calls. -/
def SummaryOf (r : Resolver) (f : Function) (s : Summary) : Prop :=
  (∃ view, r.summarize view f = .ok s) ∨ ∃ error, s = .failed f.id f.contentHash error

theorem SummaryOf.contentHash {f : Function} {s : Summary} (h : r.SummaryOf f s) :
    s.contentHash = f.contentHash := by
  rcases h with ⟨view, h⟩ | ⟨error, rfl⟩
  · rcases summarize_cases h with ⟨a, -, rfl⟩ | ⟨error, rfl⟩ <;> rfl
  · rfl

/-- The summaries of a component: one for each member that is summarised. -/
structure ResultsOf (r : Resolver) (c : Names) (results : List Summary) : Prop where
  owned : ∀ s ∈ results, s.function ∈ r.membersOf c ∧
    ∃ f, r.program.functions.get? s.function = some f ∧ r.SummaryOf f s
  nodup : (results.map Summary.function).Nodup
  complete : ∀ id ∈ r.membersOf c, ∃ s ∈ results, s.function = id

theorem resultsOf_values (hkeyed : r.program.WellKeyed)
    (hvalid : ∀ id ∈ r.valid, ∃ f, r.program.functions.get? id = some f)
    {published next : NameMap Summary} {n : Nat} {settled : Bool} (hn : 0 < n)
    (h : r.rounds published (r.membersOf c) n ∅ = .ok (next, settled)) :
    r.ResultsOf c next.values := by
  have hprovides : r.Provides (r.membersOf c) next :=
    Provides.rounds (fun id s hs => by cases hs) hkeyed h
  have hmade : ∀ id s, next.get? id = some s → ∃ f, r.program.functions.get? id = some f ∧
      r.SummaryOf f s := by
    refine rounds_induction (motive := fun table => ∀ id s, table.get? id = some s →
      ∃ f, r.program.functions.get? id = some f ∧ r.SummaryOf f s) h ?_ ?_
    · intro id s hs
      cases hs
    · intro table other f new _ htable hf _ hnew id s hs
      rw [OrderedMap.get?_set] at hs
      split at hs
      · next he =>
        cases hs
        exact ⟨f, he ▸ hf, Or.inl ⟨_, hnew⟩⟩
      · exact htable id s hs
  refine ⟨fun s hs => ?_, hprovides.nodup_values, ?_⟩
  · have hget := hprovides.mem_values_iff.1 hs
    exact ⟨(hprovides _ s hget).1, hmade _ s hget⟩
  · intro id hid
    obtain ⟨f, hf⟩ := hvalid id (mem_membersOf_iff.1 hid).2
    obtain ⟨s, hs⟩ := summarised_of_rounds hn h hid hf
    exact ⟨s, OrderedMap.mem_values_iff.2 ⟨id, hs⟩, (hprovides id s hs).2.1⟩

theorem resultsOf_failedMembers (hkeyed : r.program.WellKeyed)
    (hvalid : ∀ id ∈ r.valid, ∃ f, r.program.functions.get? id = some f) :
    r.ResultsOf c (r.failedMembers c) := by
  have hspec : r.ComponentSpec ∅ (r.membersOf c) (r.failedMembers c) :=
    componentSpec_failed (c.nodup_toList.filter _)
      (fun id hid => hvalid id (mem_membersOf_iff.1 hid).2) _
  refine ⟨fun s hs => ⟨hspec.owned s hs, ?_⟩, hspec.nodup, hspec.complete⟩
  obtain ⟨id, f, error, -, hf, rfl⟩ := exists_of_mem_failedMembers hs
  exact ⟨f, hf, Or.inr ⟨_, by rw [hkeyed id f hf]⟩⟩

/-- Whatever the limits are, each member that is summarised gets one summary. -/
theorem resultsOf_summarizeComponent (hkeyed : r.program.WellKeyed)
    (hvalid : ∀ id ∈ r.valid, ∃ f, r.program.functions.get? id = some f)
    {published : NameMap Summary} {results : List Summary}
    (h : r.summarizeComponent published c = .ok results) : r.ResultsOf c results := by
  obtain ⟨next, settled, hrounds, ⟨hdone, rfl⟩ | ⟨-, -, rfl⟩⟩ := results_cases h
  · refine resultsOf_values hkeyed hvalid ?_ hrounds
    by_contra hzero
    obtain hnone : (r.budgetOf c).toNat = 0 := by omega
    rw [hnone, rounds] at hrounds
    cases hrounds
    have hone : r.budgetOf c = 1 := hdone.resolve_left Bool.false_ne_true
    omega
  · exact resultsOf_failedMembers hkeyed hvalid

theorem resultsOf_nil (h : r.membersOf c = []) : r.ResultsOf c [] := by
  refine ⟨fun s hs => absurd hs List.not_mem_nil, List.nodup_nil, fun id hid => ?_⟩
  rw [h] at hid
  exact absurd hid List.not_mem_nil

/-- A component was summarised from a table: its members that can be analysed, if there are any, got new
summaries. -/
def Summarises (r : Resolver) (table : NameMap Summary) (res res' : Resolution) (c : Names) : Prop :=
  ∃ results, (∀ id ∈ r.membersOf c, r.summarizeComponent table c = .ok results) ∧ r.ResultsOf c results ∧
    (∀ s ∈ results, res.Publishes res' s) ∧ ∀ id ∈ c, id ∉ r.valid → res.SameAt res' id

theorem eq_of_mem_layer {layer : List Names}
    (hdisjoint : layer.Pairwise (fun c d => ∀ v ∈ c, v ∉ d)) {d : Names} (hc : c ∈ layer)
    (hd : d ∈ layer) (hidc : id ∈ c) (hidd : id ∈ d) : c = d := by
  have hsymm : Std.Symm (fun c d : Names => ∀ v ∈ c, v ∉ d) := ⟨fun _ _ h v hd hc => h v hc hd⟩
  by_contra hne
  exact hdisjoint.forall hc hd hne id hidc hidd

theorem sameAt_of_resultsOf {cs : List Names} {results : List (List Summary)}
    (h : List.Forall₂ r.ResultsOf cs results) (res : Resolution)
    (hid : ∀ c ∈ cs, id ∉ r.membersOf c) :
    res.SameAt (results.flatten.foldl Resolution.publish res) id := by
  refine Resolution.sameAt_foldl_publish res fun s hs he => ?_
  obtain ⟨rs, hrs, hs⟩ := List.mem_flatten.1 hs
  obtain ⟨c, hc, hspec⟩ := exists_right_of_forall₂ h.flip hrs
  exact hid c hc (he ▸ (hspec.owned s hs).1)

/-- **A layer settles its components** and leaves all other functions alone. -/
theorem outcome_of_resolveLayer (hkeyed : r.program.WellKeyed)
    (hvalid : ∀ id ∈ r.valid, ∃ f, r.program.functions.get? id = some f) {layer : List Names}
    (hdisjoint : layer.Pairwise (fun c d => ∀ v ∈ c, v ∉ d))
    (h : r.resolveLayer res layer = .ok res') :
    (∀ c ∈ layer, (r.Inherited res c ∧ ∀ id ∈ c, r.Inherits res res' id) ∨
      (¬ r.Inherited res c ∧ r.Summarises (r.base res layer).summaries res res' c)) ∧
      ∀ id, (∀ c ∈ layer, id ∉ c) → res.SameAt res' id := by
  rw [resolveLayer_eq] at h
  obtain ⟨results, hresults, h⟩ := Result.exists_of_bind_eq_ok h
  cases h
  have hcomponents := Result.forall₂_of_mapM hresults
  have hspecs : List.Forall₂ r.ResultsOf (r.leftOf res layer) results :=
    hcomponents.imp fun c rs => resultsOf_summarizeComponent hkeyed hvalid
  have hleft : ∀ c, c ∈ r.leftOf res layer ↔
      c ∈ layer ∧ (∃ id ∈ c, id ∈ r.valid) ∧ r.takesOver res c = false := by
    intro c
    rw [leftOf, List.mem_filter, mem_pendingOf_iff, Bool.not_eq_true', and_assoc]
  constructor
  · intro c hc
    have hother : ∀ id ∈ c, ∀ d ∈ layer, id ∈ d → d = c := fun id hidc d hd hidd =>
      eq_of_mem_layer hdisjoint hd hc hidd hidc
    by_cases hinherited : r.Inherited res c
    · refine Or.inl ⟨hinherited, fun id hid => ?_⟩
      refine (inherits_base hc hid hinherited).same (sameAt_of_resultsOf hspecs _ fun d hd hidd => ?_)
      obtain ⟨hd, -, htake⟩ := (hleft d).1 hd
      obtain rfl := hother id hid d hd (mem_membersOf_iff.1 hidd).1
      rw [hinherited.2] at htake
      cases htake
    · have hbase : ∀ id ∈ c, res.SameAt (r.base res layer) id := fun id hid =>
        sameAt_base fun d hd hidd => hother id hid d hd hidd ▸ hinherited
      have hinvalid : ∀ id ∈ c, id ∉ r.valid →
          res.SameAt (results.flatten.foldl Resolution.publish (r.base res layer)) id :=
        fun id hid hnot => (hbase id hid).trans
          (sameAt_of_resultsOf hspecs _ fun d _ hidd => hnot (mem_membersOf_iff.1 hidd).2)
      refine Or.inr ⟨hinherited, ?_⟩
      by_cases hpending : ∃ id ∈ c, id ∈ r.valid
      · have htake : r.takesOver res c = false := by
          rw [← Bool.not_eq_true]
          exact fun htake => hinherited ⟨hpending, htake⟩
        obtain ⟨rs, hrs, hcomponent⟩ :=
          exists_right_of_forall₂ hcomponents ((hleft c).2 ⟨hc, hpending, htake⟩)
        have hspec := resultsOf_summarizeComponent hkeyed hvalid hcomponent
        have hnodup := nodup_flatten
          (hspecs.imp fun d ss h => ⟨h.nodup, fun s hs => (mem_membersOf_iff.1 (h.owned s hs).1).1⟩)
          ((hdisjoint.sublist List.filter_sublist).sublist List.filter_sublist)
        refine ⟨rs, fun _ _ => hcomponent, hspec, fun s hs => ?_, hinvalid⟩
        exact (Resolution.publishes_foldl_publish _ hnodup (List.mem_flatten.2 ⟨rs, hrs, hs⟩)).after
          (hbase _ (mem_membersOf_iff.1 (hspec.owned s hs).1).1)
      · have hnone : r.membersOf c = [] := by
          refine List.eq_nil_iff_forall_not_mem.2 fun id hid => hpending ⟨id, ?_⟩
          exact mem_membersOf_iff.1 hid
        refine ⟨[], fun id hid => ?_, resultsOf_nil hnone, ?_, hinvalid⟩
        · exact absurd (hnone ▸ hid) List.not_mem_nil
        · exact fun s hs => absurd hs List.not_mem_nil
  · intro id hid
    have hbase : res.SameAt (r.base res layer) id :=
      sameAt_base fun c hc hidc => absurd hidc (hid c hc)
    refine hbase.trans (sameAt_of_resultsOf hspecs _ fun c hc hidc => ?_)
    exact hid c ((hleft c).1 hc).1 (mem_membersOf_iff.1 hidc).1

/-! ### All layers -/

/-- How a component stands after its turn.  What it was judged and summarised by is published still. -/
def Settled (r : Resolver) (res : Resolution) (c : Names) : Prop :=
  (r.Inherited res c ∧ ∀ id ∈ c, r.Inherits r.initial res id) ∨
    (¬ r.Inherited res c ∧ ∃ table : NameMap Summary,
      (∀ id ∈ c, table.get? id = r.initial.summaries.get? id) ∧
      (∀ id ∈ c, ∀ callee, r.graph.callees.Edge id callee → callee ∉ c →
        table.get? callee = res.summaries.get? callee) ∧
      r.Summarises table r.initial res c)

theorem Inherited.congr (h : ∀ id ∈ c, ∀ callee, r.graph.callees.Edge id callee → callee ∉ c →
    res.SameAt res' callee) : r.Inherited res' c ↔ r.Inherited res c := by
  unfold Inherited
  rw [takesOver_congr fun id hid callee hedge hout => (h id hid callee hedge hout).recomputed]

theorem Summarises.same {table : NameMap Summary} {res'' : Resolution}
    (h : r.Summarises table res res' c) (h' : ∀ id ∈ c, res'.SameAt res'' id) :
    r.Summarises table res res'' c := by
  obtain ⟨results, hcomponent, hspec, hpublished, hrest⟩ := h
  refine ⟨results, hcomponent, hspec, fun s hs => ?_, fun id hid hnot => ?_⟩
  · exact (hpublished s hs).same (h' _ (mem_membersOf_iff.1 (hspec.owned s hs).1).1)
  · exact (hrest id hid hnot).trans (h' id hid)

theorem Summarises.after {table : NameMap Summary} {res'' : Resolution}
    (h : r.Summarises table res' res'' c) (h' : ∀ id ∈ c, res.SameAt res' id) :
    r.Summarises table res res'' c := by
  obtain ⟨results, hcomponent, hspec, hpublished, hrest⟩ := h
  refine ⟨results, hcomponent, hspec, fun s hs => ?_, fun id hid hnot => ?_⟩
  · exact (hpublished s hs).after (h' _ (mem_membersOf_iff.1 (hspec.owned s hs).1).1)
  · exact (h' id hid).trans (hrest id hid hnot)

/-- A settled component stays settled while its members and what they call stay the same. -/
theorem Settled.same (h : r.Settled res c) (hmembers : ∀ id ∈ c, res.SameAt res' id)
    (hcallees : ∀ id ∈ c, ∀ callee, r.graph.callees.Edge id callee → callee ∉ c →
      res.SameAt res' callee) : r.Settled res' c := by
  rcases h with ⟨hinherited, hinherits⟩ | ⟨hnot, table, hown, hbelow, hsummarises⟩
  · exact Or.inl ⟨(Inherited.congr hcallees).2 hinherited,
      fun id hid => (hinherits id hid).same (hmembers id hid)⟩
  · refine Or.inr ⟨fun h => hnot ((Inherited.congr hcallees).1 h), table, hown, ?_,
      hsummarises.same hmembers⟩
    intro id hid callee hedge hout
    rw [(hcallees id hid callee hedge hout).summary]
    exact hbelow id hid callee hedge hout

/-- What holds when some layers are done. -/
structure Stage (r : Resolver) (done : List (List Names)) (res : Resolution) : Prop where
  waiting : ∀ id, (∀ layer ∈ done, ∀ c ∈ layer, id ∉ c) → r.initial.SameAt res id
  settled : ∀ layer ∈ done, ∀ c ∈ layer, r.Settled res c

theorem Stage.initial (r : Resolver) : r.Stage [] r.initial :=
  ⟨fun id _ => .refl _ id, fun _ hl => absurd hl List.not_mem_nil⟩

/-- **A layer more.** -/
theorem Stage.next {layers done rest : List (List Names)} {layer : List Names}
    (h : r.Stage done res) (hkeyed : r.program.WellKeyed)
    (hvalid : ∀ id ∈ r.valid, ∃ f, r.program.functions.get? id = some f)
    (hlayered : CallGraph.Layered r.graph.callees layers) (hsplit : layers = done ++ layer :: rest)
    (hlayer : r.resolveLayer res layer = .ok res') : r.Stage (done ++ [layer]) res' := by
  have hdisjoint := hlayered.disjoint layer (by rw [hsplit]; simp)
  obtain ⟨houtcome, hother⟩ := outcome_of_resolveLayer hkeyed hvalid hdisjoint hlayer
  have hlower : ∀ lower ∈ done, ∀ c ∈ lower, ∀ id ∈ c, ∀ d ∈ layer, id ∉ d :=
    fun lower hl c hc id hid d hd hidd =>
      hlayered.fresh done layer rest hsplit d hd id hidd lower hl c hc hid
  have hbelow : ∀ c ∈ layer, ∀ id ∈ c, ∀ callee, r.graph.callees.Edge id callee → callee ∉ c →
      ∀ d ∈ layer, callee ∉ d := by
    intro c hc id hid callee hedge hout
    rcases hlayered.lower done layer rest hsplit c hc id hid callee hedge with
      hin | ⟨lower, hl, d, hd, hin⟩
    · exact absurd hin hout
    · exact hlower lower hl d hd callee hin
  refine ⟨fun id hid => ?_, fun lower hl c hc => ?_⟩
  · refine (h.waiting id fun lower hl => hid lower (List.mem_append_left _ hl)).trans ?_
    exact hother id (hid layer (List.mem_append_right _ (List.mem_singleton_self layer)))
  · rcases List.mem_append.1 hl with hl | hl
    · refine (h.settled lower hl c hc).same
        (fun id hid => hother id (hlower lower hl c hc id hid)) ?_
      intro id hid callee hedge hout
      obtain ⟨before, after, hparts⟩ := List.append_of_mem hl
      rcases hlayered.lower before lower (after ++ layer :: rest) (by rw [hsplit, hparts]; simp) c hc
          id hid callee hedge with hin | ⟨under, hunder, d, hd, hin⟩
      · exact absurd hin hout
      · exact hother callee (hlower under (by rw [hparts]; exact List.mem_append_left _ hunder) d hd
          callee hin)
    · rw [List.mem_singleton.1 hl] at hc
      have hwaiting : ∀ id ∈ c, r.initial.SameAt res id := fun id hid =>
        h.waiting id fun lower hl d hd hidd => hlower lower hl d hd id hidd c hc hid
      have hcallees : ∀ id ∈ c, ∀ callee, r.graph.callees.Edge id callee → callee ∉ c →
          res.SameAt res' callee := fun id hid callee hedge hout =>
        hother callee (hbelow c hc id hid callee hedge hout)
      rcases houtcome c hc with ⟨hinherited, hinherits⟩ | ⟨hnot, hsummarises⟩
      · exact Or.inl ⟨(Inherited.congr hcallees).2 hinherited,
          fun id hid => (hinherits id hid).after (hwaiting id hid)⟩
      · refine Or.inr ⟨fun h => hnot ((Inherited.congr hcallees).1 h), _, ?_, ?_,
          hsummarises.after hwaiting⟩
        · intro id hid
          rw [← (hwaiting id hid).summary]
          refine (sameAt_base fun d hd hidd => ?_).summary
          exact eq_of_mem_layer hdisjoint hd hc hidd hid ▸ hnot
        · intro id hid callee hedge hout
          rw [(hcallees id hid callee hedge hout).summary]
          exact (sameAt_base fun d hd hin =>
            absurd hin (hbelow c hc id hid callee hedge hout d hd)).summary

theorem stage_of_foldlM (hkeyed : r.program.WellKeyed)
    (hvalid : ∀ id ∈ r.valid, ∃ f, r.program.functions.get? id = some f)
    {layers done remaining rest : List (List Names)}
    (hlayered : CallGraph.Layered r.graph.callees layers)
    (hsplit : layers = done ++ remaining ++ rest) {allowance left : Allowance}
    (h : r.Stage done res)
    (hfold : remaining.foldlM (fun (res, allowance) layer => do
      let allowance ← allowance.check .summaries
      return (← r.resolveLayer res layer, allowance)) (res, allowance) = .ok (res', left)) :
    r.Stage (done ++ remaining) res' := by
  induction remaining generalizing done res allowance with
  | nil =>
    cases hfold
    rwa [List.append_nil]
  | cons layer more ih =>
    rw [List.foldlM_cons] at hfold
    obtain ⟨⟨mid, allowance'⟩, hstep, hfold⟩ := Result.exists_of_bind_eq_ok hfold
    obtain ⟨checked, -, hstep⟩ := Result.exists_of_bind_eq_ok hstep
    obtain ⟨res₁, hlayer, hstep⟩ := Result.exists_of_bind_eq_ok hstep
    cases hstep
    have hwhole : layers = done ++ layer :: (more ++ rest) := by
      rw [hsplit]
      simp
    have hnext := h.next hkeyed hvalid hlayered hwhole hlayer
    have hparts : done ++ layer :: more = (done ++ [layer]) ++ more := by simp
    rw [hparts] at hsplit ⊢
    exact ih hsplit hnext hfold

/-- **In the end every component is settled.** -/
theorem stage_of_resolve {p : Program} {rules : Registry} {limits : ResolveLimits}
    {previous : NameMap Summary} (hkeyed : p.WellKeyed) {allowance left : Allowance}
    (h : (ofProgram p rules limits previous).resolve allowance = .ok (res, left)) :
    (ofProgram p rules limits previous).Stage (ofProgram p rules limits previous).graph.layers res := by
  have hvalid : ∀ id ∈ (ofProgram p rules limits previous).valid, ∃ f, p.functions.get? id = some f :=
    fun _ => exists_function_of_mem_valid
  have hlayered := CallGraph.layered_layers (ofProgram p rules limits previous).graph rfl
  unfold resolve resolveLayers at h
  generalize (ofProgram p rules limits previous).graph.layers = layers at h hlayered ⊢
  have hwhole : layers = [] ++ layers ++ [] := (List.append_nil layers).symm
  split at h
  · exact stage_of_foldlM hkeyed hvalid hlayered hwhole (.initial _) h
  · cases h

theorem exists_component {p : Program} (hid : id ∈ p.functionIds) :
    ∃ layer ∈ (CallGraph.ofProgram p).layers, ∃ c ∈ layer, id ∈ c :=
  (CallGraph.layered_layers (CallGraph.ofProgram p) rfl).covered id
    (Graph.mem_vertices_iff.2 (Or.inl (CallGraph.mem_keys_ofEdges hid)))

/-! ### What a component was summarised from -/

/-- A component was summarised from a table, and the table still stands: the members' entries are those of
the start, those of the functions that they call are published, and so are the results. -/
structure SummarisedFrom (r : Resolver) (table : NameMap Summary) (res : Resolution) (c : Names)
    (results : List Summary) : Prop where
  own : ∀ id ∈ c, table.get? id = r.initial.summaries.get? id
  below : ∀ id ∈ c, ∀ callee, r.graph.callees.Edge id callee → callee ∉ c →
    table.get? callee = res.summaries.get? callee
  component : ∀ id ∈ r.membersOf c, r.summarizeComponent table c = .ok results
  spec : r.ResultsOf c results
  published : ∀ s ∈ results, r.initial.Publishes res s
  rest : ∀ id ∈ c, id ∉ r.valid → r.initial.SameAt res id

theorem settled_cases (h : r.Settled res c) :
    (r.Inherited res c ∧ ∀ id ∈ c, r.Inherits r.initial res id) ∨
      (¬ r.Inherited res c ∧ ∃ table results, r.SummarisedFrom table res c results) :=
  h.imp_right fun ⟨hnot, table, hown, hbelow, results, hcomponent, hspec, hpublished, hrest⟩ =>
    ⟨hnot, table, results, hown, hbelow, hcomponent, hspec, hpublished, hrest⟩

/-- What the members of the component saw in the end is what is published. -/
theorem SummarisedFrom.view_eq {table next : NameMap Summary} {results : List Summary}
    (h : r.SummarisedFrom table res c results) (hresults : results = next.values)
    (hprovides : r.Provides (r.membersOf c) next) (hid : id ∈ c) {callee : String}
    (hedge : r.graph.callees.Edge id callee) : view table next callee = res.summaries.get? callee := by
  subst hresults
  unfold view
  by_cases hmember : callee ∈ r.membersOf c
  · obtain ⟨s, hs, rfl⟩ := h.spec.complete callee hmember
    rw [hprovides.mem_values_iff.1 hs, (h.published s hs).summary]
    rfl
  · have hnone : next.get? callee = none := Option.eq_none_iff_forall_ne_some.2 fun s hs =>
      hmember (hprovides callee s hs).1
    rw [hnone, Option.none_or]
    by_cases hin : callee ∈ c
    · have hnot : callee ∉ r.valid := fun hv => hmember (mem_membersOf_iff.2 ⟨hin, hv⟩)
      rw [h.own callee hin, (h.rest callee hin hnot).summary]
    · exact h.below id hid callee hedge hin

/-! ### Resolutions from nothing -/

theorem not_inherited (hprevious : r.previous = ∅) : ¬ r.Inherited res c := by
  rintro ⟨⟨id, hid, -⟩, htake⟩
  obtain ⟨f, old, -, hold, -⟩ := canReuse_iff.1 (takesOver_iff.1 htake id hid)
  rw [hprevious] at hold
  cases hold

theorem leftOf_of_previous_eq_empty (hprevious : r.previous = ∅) (res : Resolution)
    (layer : List Names) : r.leftOf res layer = r.pendingOf layer ∧ r.base res layer = res := by
  have htake : ∀ c ∈ r.pendingOf layer, r.takesOver res c = false := fun c hc => by
    obtain ⟨-, hpending⟩ := mem_pendingOf_iff.1 hc
    exact Bool.eq_false_iff.2 fun htake => not_inherited hprevious ⟨hpending, htake⟩
  refine ⟨List.filter_eq_self.2 fun c hc => by rw [htake c hc]; rfl, ?_⟩
  have hnone : (r.pendingOf layer).filter (r.takesOver res) = [] :=
    List.filter_eq_nil_iff.2 fun c hc => by simp [htake c hc]
  rw [base, hnone]
  rfl

/-- Only failures were published, each with an unknown summary and a record. -/
structure Failing (res : Resolution) : Prop where
  unknown : ∀ id s, res.summaries.get? id = some s → s.unknown = true
  recorded : ∀ id, res.failures.contains id = true ↔ ∃ s, res.summaries.get? id = some s
  recomputed : ∀ id, id ∈ res.recomputed ↔ ∃ s, res.summaries.get? id = some s
  reused : res.reused = ∅

theorem failing_initial (r : Resolver) : Failing r.initial := by
  refine initial_induction (motive := Failing) ⟨?_, fun id => ?_, fun id => ?_, rfl⟩ ?_
  · intro id s hs
    cases hs
  · simp [Resolution.empty, OrderedMap.contains]
  · simp [Resolution.empty]
  · intro res function contentHash error h _
    have hset : ∀ id, (res.fail function contentHash error).summaries.get? id =
        if id = function then some (.failed function contentHash error)
        else res.summaries.get? id := fun id => OrderedMap.get?_set _ _ _ _
    have hrecord : ∀ id, (res.fail function contentHash error).failures.get? id =
        if id = function then some error else res.failures.get? id :=
      fun id => OrderedMap.get?_set _ _ _ _
    refine ⟨fun id s hs => ?_, fun id => ?_, fun id => ?_, h.reused⟩
    · rw [hset] at hs
      split at hs
      · cases hs
        rfl
      · exact h.unknown id s hs
    · rw [OrderedMap.contains, hset, hrecord]
      split
      · simp
      · exact h.recorded id
    · have hmem : id ∈ (res.fail function contentHash error).recomputed ↔
          id = function ∨ id ∈ res.recomputed := OrderedSet.mem_insert
      rw [hmem, hset, h.recomputed]
      split
      · next he => exact iff_of_true (Or.inl he) ⟨_, rfl⟩
      · next hne => exact or_iff_right hne

theorem initial_of_fit (h : ¬ r.Unfit id) :
    r.initial.summaries.get? id = none ∧ id ∉ r.initial.recomputed ∧ id ∉ r.initial.reused := by
  have hnone : r.initial.summaries.get? id = none := by
    cases hs : r.initial.summaries.get? id with
    | none => rfl
    | some s => exact absurd (failsOnly_initial r id s hs).2 h
  refine ⟨hnone, ?_, ?_⟩
  · rw [(failing_initial r).recomputed, hnone]
    rintro ⟨s, hs⟩
    cases hs
  · rw [(failing_initial r).reused]
    exact OrderedSet.not_mem_empty id

/-- **Where known summaries come from**: one was taken over with its component, or it was made of a valid
function. -/
theorem known_of_resolve {p : Program} {rules : Registry} {limits : ResolveLimits}
    {previous : NameMap Summary} (hkeyed : p.WellKeyed) {allowance left : Allowance}
    (h : (ofProgram p rules limits previous).resolve allowance = .ok (res, left)) {s : Summary}
    (hs : res.summaries.get? id = some s) (hknown : s.unknown = false) :
    (∃ c, (ofProgram p rules limits previous).Inherited res c ∧ id ∈ c ∧ id ∈ res.reused) ∨
      (id ∈ validFunctions p ∧
        ∃ f, p.functions.get? id = some f ∧ (ofProgram p rules limits previous).SummaryOf f s) := by
  have hstage := stage_of_resolve hkeyed h
  have hinitial : ¬ (ofProgram p rules limits previous).initial.SameAt res id := by
    intro hsame
    have hunknown := (failing_initial _).unknown id s (hsame.summary.symm.trans hs)
    rw [hknown] at hunknown
    cases hunknown
  by_cases hcovered : ∃ layer ∈ (ofProgram p rules limits previous).graph.layers, ∃ c ∈ layer, id ∈ c
  · obtain ⟨layer, hlayer, c, hc, hid⟩ := hcovered
    rcases hstage.settled layer hlayer c hc with
      ⟨hinherited, hinherits⟩ | ⟨-, table, -, -, results, -, hspec, hpublished, hrest⟩
    · exact Or.inl ⟨c, hinherited, hid, (hinherits id hid).reused⟩
    · by_cases hv : id ∈ validFunctions p
      · obtain ⟨t, ht, rfl⟩ := hspec.complete id (mem_membersOf_iff.2 ⟨hid, hv⟩)
        obtain rfl : t = s := Option.some.inj ((hpublished t ht).summary.symm.trans hs)
        exact Or.inr ⟨hv, (hspec.owned t ht).2⟩
      · exact absurd (hrest id hid hv) hinitial
  · refine absurd (hstage.waiting id fun layer hl c hc hid => ?_) hinitial
    exact hcovered ⟨layer, hl, c, hc, hid⟩

theorem exists_function_of_known {p : Program} {rules : Registry} {limits : ResolveLimits}
    {previous : NameMap Summary} (hkeyed : p.WellKeyed) {allowance left : Allowance}
    (h : (ofProgram p rules limits previous).resolve allowance = .ok (res, left)) {s : Summary}
    (hs : res.summaries.get? id = some s) (hknown : s.unknown = false) :
    ∃ f, p.functions.get? id = some f := by
  rcases known_of_resolve hkeyed h hs hknown with ⟨c, hinherited, hid, -⟩ | ⟨-, f, hf, -⟩
  · obtain ⟨f, -, hf, -⟩ := canReuse_iff.1 (takesOver_iff.1 hinherited.2 id hid)
    exact ⟨f, hf⟩
  · exact ⟨f, hf⟩

/-- **A known summary was made of the function** that is listed under its id and can be analysed. -/
theorem summaryOf_of_resolve {p : Program} {rules : Registry} {limits : ResolveLimits}
    (hkeyed : p.WellKeyed) {allowance left : Allowance}
    (h : (ofProgram p rules limits ∅).resolve allowance = .ok (res, left)) {s : Summary}
    (hs : res.summaries.get? id = some s) (hknown : s.unknown = false) :
    id ∈ validFunctions p ∧
      ∃ f, p.functions.get? id = some f ∧ (ofProgram p rules limits ∅).SummaryOf f s :=
  (known_of_resolve hkeyed h hs hknown).resolve_left fun ⟨_, hinherited, _, _⟩ =>
    not_inherited rfl hinherited

/-- A component of functions that are unchanged and known, and that call each other only, is taken over. -/
theorem takesOver_of_unchanged {p p' : Program} {rules : Registry} {limits : ResolveLimits}
    (hkeyed : p.WellKeyed) {allowance left : Allowance} {previous : Resolution}
    (hprevious : (ofProgram p rules limits ∅).resolve allowance = .ok (previous, left))
    (hsame : ∀ id ∈ c, p'.functions.get? id = p.functions.get? id)
    (hknown : ∀ id ∈ c, ∃ s, previous.summaries.get? id = some s ∧ s.unknown = false)
    (hclosed : ∀ id ∈ c, ∀ callee, (CallGraph.ofProgram p').callees.Edge id callee → callee ∈ c)
    (res : Resolution) : (ofProgram p' rules limits previous.summaries).takesOver res c = true := by
  refine takesOver_iff.2 fun id hid => canReuse_iff.2 ?_
  obtain ⟨s, hs, hunknown⟩ := hknown id hid
  obtain ⟨-, f, hf, hsummary⟩ := summaryOf_of_resolve hkeyed hprevious hs hunknown
  exact ⟨f, s, (hsame id hid).trans hf, hs, hunknown, hsummary.contentHash,
    fun callee hedge => Or.inl (hclosed id hid callee hedge)⟩

/-- A program of one component that is taken over is not summarised at all. -/
theorem resolve_of_takesOver {p : Program} {rules : Registry} {limits : ResolveLimits}
    {previous : NameMap Summary} (hdefined : CallGraph.isDefinedFor p = true)
    (hlayers : (CallGraph.ofProgram p).layers = [[c]])
    (htake : (ofProgram p rules limits previous).takesOver (ofProgram p rules limits previous).initial c =
      true) :
    (ofProgram p rules limits previous).resolve .unlimited =
      .ok ((ofProgram p rules limits previous).base (ofProgram p rules limits previous).initial [c],
        .unlimited) := by
  have hlayer : (ofProgram p rules limits previous).resolveLayer
      (ofProgram p rules limits previous).initial [c] =
        .ok ((ofProgram p rules limits previous).base (ofProgram p rules limits previous).initial [c]) :=
    resolveLayer_of_takesOver fun d hd _ => List.mem_singleton.1 hd ▸ htake
  have hrun : (ofProgram p rules limits previous).resolve .unlimited =
      (ofProgram p rules limits previous).resolveLayers .unlimited := if_pos hdefined
  have hgraph : (ofProgram p rules limits previous).graph.layers = [[c]] := hlayers
  rw [hrun, resolveLayers, hgraph]
  simp [Allowance.check, hlayer, bind, Except.bind, pure, Except.pure]

end Resolver

end TaintFlow
