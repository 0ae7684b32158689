import Mathlib.Data.List.Pairwise
import Mathlib.Data.List.Perm.Basic
import Mathlib.Data.Prod.Lex
import TaintFlow.Proofs.Summary.Jobs

/-!
# A layer in any order

The components of a layer have nothing to do with each other (`Resolver.Separate`), so it does not matter
in which order they are taken over, analysed step by step and published (`Resolver.LayerStep`).  At any time
the layer is `Resolver.Underway`: some components are taken over, some are summarised, and what concerns the
others is as it was.  Each step preserves this (`Resolver.Underway.step`), and when nothing is left to do the
layer is what `Resolver.resolveLayer` makes of it (`Resolver.Underway.resolveLayer_eq_ok`).
-/

namespace TaintFlow

/-! ### Resolutions that agree everywhere -/

namespace Resolution

variable {res res' res'' : Resolution} {id : String}

theorem SameAt.symm (h : res.SameAt res' id) : res'.SameAt res id :=
  ⟨h.summary.symm, h.failure.symm, h.recomputed.symm, h.reused.symm⟩

/-- Two resolutions that have published the same summary, and nothing else that concerns its function,
agree on the function. -/
theorem Publishes.sameAt {t : Summary} (h : res.Publishes res' t) (h' : res.Publishes res'' t) :
    res'.SameAt res'' t.function :=
  ⟨h'.summary.trans h.summary.symm, h'.failure.trans h.failure.symm,
    iff_of_true h'.recomputed h.recomputed, h'.reused.trans h.reused.symm⟩

theorem eq_of_sameAt (h : ∀ id, res.SameAt res' id) : res = res' := by
  have hsummaries : res.summaries = res'.summaries :=
    OrderedMap.eq_of_get?_eq fun id => (h id).summary.symm
  have hfailures : res.failures = res'.failures :=
    OrderedMap.eq_of_get?_eq fun id => (h id).failure.symm
  have hrecomputed : res.recomputed = res'.recomputed :=
    OrderedSet.eq_of_mem_iff fun id => (h id).recomputed.symm
  have hreused : res.reused = res'.reused :=
    OrderedSet.eq_of_mem_iff fun id => (h id).reused.symm
  cases res
  cases res'
  cases hsummaries
  cases hfailures
  cases hrecomputed
  cases hreused
  rfl

end Resolution

namespace Resolver

variable {r : Resolver} {res res' res'' : Resolution} {c : Names} {id : String}

theorem Inherits.sameAt (h : r.Inherits res res' id) (h' : r.Inherits res res'' id) :
    res'.SameAt res'' id :=
  ⟨h'.summary.trans h.summary.symm, h'.failure.trans h.failure.symm,
    h'.recomputed.trans h.recomputed.symm, iff_of_true h'.reused h.reused⟩

end Resolver

/-! ### A layer that is being resolved -/

/-- A layer that is being resolved. -/
structure LayerState where
  res : Resolution
  /-- The components whose turn has not come. -/
  waiting : List Names
  jobs : List Job
  /-- The summaries that have been computed and are not published yet. -/
  ready : List Summary

structure LayerState.Done (s : LayerState) : Prop where
  waiting : s.waiting = []
  jobs : s.jobs = []
  ready : s.ready = []

namespace Resolver

variable {r : Resolver} {res : Resolution} {c : Names} {id : String}

def openLayer (r : Resolver) (res : Resolution) (layer : List Names) : LayerState :=
  ⟨res, r.pendingOf layer, [], []⟩

/-- What may happen next in a layer, in any order: a component is taken over or its analysis begins, an
analysis makes a step or has ended and is collected, a summary is published. -/
inductive LayerStep (r : Resolver) : LayerState → LayerState → Prop
  | reuse {s : LayerState} {c : Names} (hc : c ∈ s.waiting) (htake : r.takesOver s.res c = true) :
      LayerStep r s
        { s with res := c.toList.foldl r.inherit s.res, waiting := s.waiting.erase c }
  | start {s : LayerState} {c : Names} (hc : c ∈ s.waiting) (htake : r.takesOver s.res c = false) :
      LayerStep r s { s with waiting := s.waiting.erase c, jobs := r.startJob c :: s.jobs }
  | work {s : LayerState} {j j' : Job} (hj : j ∈ s.jobs) (hstep : r.JobStep s.res.summaries j j') :
      LayerStep r s { s with jobs := j' :: s.jobs.erase j }
  | collect {s : LayerState} {j : Job} {results : List Summary} (hj : j ∈ s.jobs) (hended : j.Ended)
      (hresults : r.jobResults j = .ok results) :
      LayerStep r s { s with jobs := s.jobs.erase j, ready := results ++ s.ready }
  | publish {s : LayerState} {t : Summary} (ht : t ∈ s.ready) :
      LayerStep r s { s with res := s.res.publish t, ready := s.ready.erase t }

/-- What the components of a layer have to do with each other: nothing. -/
structure Separate (r : Resolver) (layer : List Names) : Prop where
  keyed : r.program.WellKeyed
  valid : ∀ id ∈ r.valid, ∃ f, r.program.functions.get? id = some f
  disjoint : layer.Pairwise (fun c d => ∀ v ∈ c, v ∉ d)
  below : ∀ c ∈ layer, ∀ id ∈ c, ∀ callee, r.graph.callees.Edge id callee →
    callee ∈ c ∨ ∀ d ∈ layer, callee ∉ d
  calls : ∀ id f, r.program.functions.get? id = some f → ∀ callee,
    f.Calls r.program.functionIds callee → r.graph.callees.Edge id callee

/-- How far a layer has come since it was opened: some components were taken over, some were summarised,
and some of their summaries were published. -/
structure Underway (r : Resolver) (layer : List Names) (res : Resolution) (inherited : List Names)
    (done : List (Names × List Summary)) (out : List Summary) (s : LayerState) : Prop where
  parts : (inherited ++ (done.map Prod.fst ++ (s.jobs.map Job.component ++ s.waiting))).Perm
    (r.pendingOf layer)
  taken : ∀ c ∈ inherited, r.takesOver res c = true
  finished : ∀ e ∈ done, r.takesOver res e.1 = false ∧
    r.summarizeComponent res.summaries e.1 = .ok e.2
  working : ∀ j ∈ s.jobs, r.takesOver res j.component = false ∧
    (∀ id ∈ j.queue, id ∈ r.membersOf j.component) ∧
      r.outcome res.summaries j = r.outcome res.summaries (r.startJob j.component)
  results : (out ++ s.ready).Perm (done.map Prod.snd).flatten
  inherits : ∀ c ∈ inherited, ∀ id ∈ c, r.Inherits res s.res id
  publishes : ∀ t ∈ out, res.Publishes s.res t
  same : ∀ id, (∀ c ∈ inherited, id ∉ c) → (∀ t ∈ out, t.function ≠ id) → res.SameAt s.res id

theorem underway_openLayer (r : Resolver) (layer : List Names) (res : Resolution) :
    r.Underway layer res [] [] [] (r.openLayer res layer) where
  parts := .refl _
  taken := by simp
  finished := by simp
  working := by simp [openLayer]
  results := .refl _
  inherits := by simp
  publishes := by simp
  same id _ _ := .refl res id

namespace Underway

variable {layer inherited : List Names} {done : List (Names × List Summary)} {out : List Summary}
  {s s' : LayerState}

theorem mem_pendingOf (h : r.Underway layer res inherited done out s) :
    (∀ c ∈ inherited, c ∈ r.pendingOf layer) ∧ (∀ e ∈ done, e.1 ∈ r.pendingOf layer) ∧
      (∀ j ∈ s.jobs, j.component ∈ r.pendingOf layer) ∧ ∀ c ∈ s.waiting, c ∈ r.pendingOf layer := by
  have hmem : ∀ c ∈ inherited ++ (done.map Prod.fst ++ (s.jobs.map Job.component ++ s.waiting)),
      c ∈ r.pendingOf layer := fun c hc => h.parts.subset hc
  simp only [List.mem_append] at hmem
  refine ⟨fun c hc => hmem c (Or.inl hc), fun e he => ?_, fun j hj => ?_, fun c hc => ?_⟩
  · exact hmem _ (Or.inr (Or.inl (List.mem_map_of_mem he)))
  · exact hmem _ (Or.inr (Or.inr (Or.inl (List.mem_map_of_mem hj))))
  · exact hmem c (Or.inr (Or.inr (Or.inr hc)))

theorem mem_layer_of_pendingOf (h : c ∈ r.pendingOf layer) : c ∈ layer := (mem_pendingOf_iff.1 h).1

theorem disjoint (h : r.Underway layer res inherited done out s) (hlayer : r.Separate layer) :
    (inherited ++ (done.map Prod.fst ++ (s.jobs.map Job.component ++ s.waiting))).Pairwise
      (fun c d => ∀ v ∈ c, v ∉ d) :=
  (hlayer.disjoint.sublist List.filter_sublist).perm h.parts.symm fun hcd v hv hv' => hcd v hv' hv

/-- A summary that was computed belongs to a member of a component that was summarised. -/
theorem exists_finished (h : r.Underway layer res inherited done out s)
    (hlayer : r.Separate layer) {t : Summary} (ht : t ∈ out ++ s.ready) :
    ∃ e ∈ done, t ∈ e.2 ∧ t.function ∈ r.membersOf e.1 := by
  obtain ⟨results, hresults, ht⟩ := List.mem_flatten.1 (h.results.subset ht)
  obtain ⟨e, he, rfl⟩ := List.mem_map.1 hresults
  have hspec := resultsOf_summarizeComponent hlayer.keyed hlayer.valid (h.finished e he).2
  exact ⟨e, he, ht, (hspec.owned t ht).1⟩

theorem nodup_function (h : r.Underway layer res inherited done out s)
    (hlayer : r.Separate layer) : ((out ++ s.ready).map Summary.function).Nodup := by
  have hspecs : List.Forall₂ (fun c rs => (rs.map Summary.function).Nodup ∧ ∀ t ∈ rs, t.function ∈ c)
      (done.map Prod.fst) (done.map Prod.snd) := by
    rw [List.forall₂_map_left_iff, List.forall₂_map_right_iff, List.forall₂_same]
    intro e he
    have hspec := resultsOf_summarizeComponent hlayer.keyed hlayer.valid (h.finished e he).2
    exact ⟨hspec.nodup, fun t ht => (mem_membersOf_iff.1 (hspec.owned t ht).1).1⟩
  have hdisjoint := (List.pairwise_append.1 (List.pairwise_append.1 (h.disjoint hlayer)).2.1).1
  exact ((h.results.map Summary.function).nodup_iff).2 (nodup_flatten hspecs hdisjoint)

/-- What concerns no component of the layer stays as it was. -/
theorem sameAt_outside (h : r.Underway layer res inherited done out s)
    (hlayer : r.Separate layer) (hid : ∀ c ∈ layer, id ∉ c) : res.SameAt s.res id := by
  refine h.same id (fun c hc => hid c ?_) fun t ht he => ?_
  · exact mem_layer_of_pendingOf (h.mem_pendingOf.1 c hc)
  · obtain ⟨e, hmem, -, hfunction⟩ := h.exists_finished hlayer (List.mem_append_left _ ht)
    exact hid e.1 (mem_layer_of_pendingOf (h.mem_pendingOf.2.1 e hmem))
      (he ▸ (mem_membersOf_iff.1 hfunction).1)

/-- A summary that was computed concerns no component that was taken over, is being summarised, or
waits. -/
theorem function_not_mem (h : r.Underway layer res inherited done out s) (hlayer : r.Separate layer)
    {t : Summary} (ht : t ∈ out ++ s.ready)
    (hc : c ∈ inherited ∨ c ∈ s.jobs.map Job.component ++ s.waiting) : t.function ∉ c := by
  obtain ⟨e, he, -, hmember⟩ := h.exists_finished hlayer ht
  have hdone : e.1 ∈ done.map Prod.fst := List.mem_map_of_mem he
  have hin : t.function ∈ e.1 := (mem_membersOf_iff.1 hmember).1
  obtain ⟨-, hrest, htaken⟩ := List.pairwise_append.1 (h.disjoint hlayer)
  rcases hc with hc | hc
  · exact fun hmem => htaken c hc e.1 (List.mem_append_left _ hdone) t.function hmem hin
  · exact (List.pairwise_append.1 hrest).2.2 e.1 hdone c hc t.function hin

theorem sameAt_of_mem (h : r.Underway layer res inherited done out s)
    (hlayer : r.Separate layer) (hc : c ∈ s.jobs.map Job.component ++ s.waiting) (hid : id ∈ c) :
    res.SameAt s.res id := by
  refine h.same id (fun d hd hidd => ?_) fun t ht he => ?_
  · exact (List.pairwise_append.1 (h.disjoint hlayer)).2.2 d hd c (List.mem_append_right _ hc) id hidd
      hid
  · exact h.function_not_mem hlayer (List.mem_append_left _ ht) (Or.inr hc) (he ▸ hid)

/-- **Nobody writes what a component reads.** -/
theorem sameAt_callee (h : r.Underway layer res inherited done out s)
    (hlayer : r.Separate layer) (hc : c ∈ s.jobs.map Job.component ++ s.waiting) (hid : id ∈ c)
    {callee : String} (hedge : r.graph.callees.Edge id callee) : res.SameAt s.res callee := by
  have hmem : c ∈ layer := by
    refine mem_layer_of_pendingOf (h.parts.subset ?_)
    exact List.mem_append_right _ (List.mem_append_right _ hc)
  rcases hlayer.below c hmem id hid callee hedge with hin | hout
  · exact h.sameAt_of_mem hlayer hc hin
  · exact h.sameAt_outside hlayer hout

theorem agreeOn (h : r.Underway layer res inherited done out s) (hlayer : r.Separate layer)
    {j : Job} (hj : j ∈ s.jobs) :
    r.AgreeOn (r.membersOf j.component) res.summaries s.res.summaries := by
  intro id hid f hf callee hcalls
  refine (h.sameAt_callee hlayer (List.mem_append_left _ (List.mem_map_of_mem hj))
    (mem_membersOf_iff.1 hid).1 ?_).summary
  exact hlayer.calls id f hf callee hcalls

/-- Whether a component that waits can be taken over was settled when the layer was opened. -/
theorem takesOver_eq (h : r.Underway layer res inherited done out s) (hlayer : r.Separate layer)
    (hc : c ∈ s.waiting) : r.takesOver s.res c = r.takesOver res c :=
  takesOver_congr fun _ hid _ hedge _ =>
    (h.sameAt_callee hlayer (List.mem_append_right _ hc) hid hedge).recomputed

theorem outcome_eq (h : r.Underway layer res inherited done out s) (hlayer : r.Separate layer)
    {j : Job} (hj : j ∈ s.jobs) :
    r.outcome s.res.summaries j = r.outcome res.summaries (r.startJob j.component) :=
  (outcome_congr (h.agreeOn hlayer hj) (h.working j hj).2.1).trans (h.working j hj).2.2

/-! ### What a step preserves -/

theorem perm_cons_append {rest rest' : List Names} (h : rest.Perm (c :: rest')) (others : List Names) :
    (others ++ rest).Perm (c :: (others ++ rest')) :=
  (h.append_left others).trans List.perm_middle

theorem reuse (h : r.Underway layer res inherited done out s) (hlayer : r.Separate layer)
    (hc : c ∈ s.waiting) (htake : r.takesOver s.res c = true) :
    r.Underway layer res (c :: inherited) done out
      { s with res := c.toList.foldl r.inherit s.res, waiting := s.waiting.erase c } := by
  have hpart : c ∈ s.jobs.map Job.component ++ s.waiting := List.mem_append_right _ hc
  have hother : ∀ {id}, id ∉ c → s.res.SameAt (c.toList.foldl r.inherit s.res) id := fun hid =>
    sameAt_foldl_inherit s.res fun hmem => hid (OrderedSet.mem_def.2 hmem)
  constructor
  · have htaken := perm_cons_append (List.perm_cons_erase hc) (s.jobs.map Job.component)
    exact (perm_cons_append (perm_cons_append htaken _) inherited).symm.trans h.parts
  · intro d hd
    rcases List.mem_cons.1 hd with rfl | hd
    · exact (h.takesOver_eq hlayer hc).symm.trans htake
    · exact h.taken d hd
  · exact h.finished
  · exact h.working
  · exact h.results
  · intro d hd id hid
    rcases List.mem_cons.1 hd with rfl | hd
    · obtain ⟨f, old, -, hold, -⟩ := canReuse_iff.1 (takesOver_iff.1 htake id hid)
      exact (inherits_foldl_inherit s.res hold (OrderedSet.mem_def.1 hid)).after
        (h.sameAt_of_mem hlayer hpart hid)
    · refine (h.inherits d hd id hid).same (hother fun hin => ?_)
      exact (List.pairwise_append.1 (h.disjoint hlayer)).2.2 d hd c (List.mem_append_right _ hpart) id
        hid hin
  · exact fun t ht => (h.publishes t ht).same
      (hother (h.function_not_mem hlayer (List.mem_append_left _ ht) (Or.inr hpart)))
  · intro id hover hout
    exact (h.same id (fun d hd => hover d (List.mem_cons_of_mem c hd)) hout).trans
      (hother (hover c List.mem_cons_self))

theorem start (h : r.Underway layer res inherited done out s) (hlayer : r.Separate layer)
    (hc : c ∈ s.waiting) (htake : r.takesOver s.res c = false) :
    r.Underway layer res inherited done out
      { s with waiting := s.waiting.erase c, jobs := r.startJob c :: s.jobs } where
  parts := by
    have htaken := perm_cons_append (List.perm_cons_erase hc) (s.jobs.map Job.component)
    exact ((htaken.symm.append_left _).append_left inherited).trans h.parts
  taken := h.taken
  finished := h.finished
  working j hj := by
    rcases List.mem_cons.1 hj with rfl | hj
    · exact ⟨(h.takesOver_eq hlayer hc).symm.trans htake, fun _ hid => absurd hid List.not_mem_nil, rfl⟩
    · exact h.working j hj
  results := h.results
  inherits := h.inherits
  publishes := h.publishes
  same := h.same

theorem work (h : r.Underway layer res inherited done out s) (hlayer : r.Separate layer) {j j' : Job}
    (hj : j ∈ s.jobs) (hstep : r.JobStep s.res.summaries j j') :
    r.Underway layer res inherited done out { s with jobs := j' :: s.jobs.erase j } where
  parts := by
    refine List.Perm.trans ?_ h.parts
    refine List.Perm.append_left _ (List.Perm.append_left _ (List.Perm.append_right _ ?_))
    rw [List.map_cons, component_of_jobStep hstep, ← List.map_cons]
    exact ((List.perm_cons_erase hj).map Job.component).symm
  taken := h.taken
  finished := h.finished
  working k hk := by
    rcases List.mem_cons.1 hk with rfl | hk
    · obtain ⟨htake, hqueue, -⟩ := h.working j hj
      have hcomponent := component_of_jobStep hstep
      have hqueue' := queue_of_jobStep hstep hqueue
      have hagree := hcomponent ▸ h.agreeOn hlayer hj
      refine ⟨hcomponent ▸ htake, hqueue', ?_⟩
      rw [← outcome_congr hagree hqueue', outcome_of_jobStep hstep, h.outcome_eq hlayer hj, hcomponent]
    · exact h.working k (List.mem_of_mem_erase hk)
  results := h.results
  inherits := h.inherits
  publishes := h.publishes
  same := h.same

theorem collect (h : r.Underway layer res inherited done out s) {j : Job} {results : List Summary}
    (hj : j ∈ s.jobs) (hended : j.Ended) (hresults : r.jobResults j = .ok results) :
    r.Underway layer res inherited ((j.component, results) :: done) out
      { s with jobs := s.jobs.erase j, ready := results ++ s.ready } where
  parts := by
    have htaken := ((List.perm_cons_erase hj).map Job.component).append_right s.waiting
    exact ((perm_cons_append htaken _).symm.append_left inherited).trans h.parts
  taken := h.taken
  finished e he := by
    rcases List.mem_cons.1 he with rfl | he
    · obtain ⟨htake, -, houtcome⟩ := h.working j hj
      exact ⟨htake, (summarizeComponent_of_ended hended houtcome).trans hresults⟩
    · exact h.finished e he
  working k hk := h.working k (List.mem_of_mem_erase hk)
  results := by
    rw [List.map_cons, List.flatten_cons]
    refine List.Perm.trans ?_ (h.results.append_left results)
    rw [← List.append_assoc, ← List.append_assoc]
    exact List.perm_append_comm.append_right s.ready
  inherits := h.inherits
  publishes := h.publishes
  same := h.same

theorem publish (h : r.Underway layer res inherited done out s) (hlayer : r.Separate layer) {t : Summary}
    (ht : t ∈ s.ready) :
    r.Underway layer res inherited done (t :: out)
      { s with res := s.res.publish t, ready := s.ready.erase t } := by
  have hnot : ∀ u ∈ out, u.function ≠ t.function := by
    have hnodup := h.nodup_function hlayer
    rw [List.map_append] at hnodup
    exact fun u hu he => (List.nodup_append.1 hnodup).2.2 u.function (List.mem_map_of_mem hu)
      t.function (List.mem_map_of_mem ht) he
  have hover : ∀ c ∈ inherited, t.function ∉ c := fun c hc =>
    h.function_not_mem hlayer (List.mem_append_right _ ht) (Or.inl hc)
  constructor
  · exact h.parts
  · exact h.taken
  · exact h.finished
  · exact h.working
  · refine List.Perm.trans ?_ h.results
    refine List.Perm.trans ?_ ((List.perm_cons_erase ht).symm.append_left out)
    exact List.perm_middle.symm
  · intro c hc id hid
    refine (h.inherits c hc id hid).same (Resolution.sameAt_publish s.res fun he => ?_)
    exact hover c hc (he ▸ hid)
  · intro u hu
    rcases List.mem_cons.1 hu with rfl | hu
    · exact (Resolution.publishes_publish s.res u).after (h.same _ hover hnot)
    · exact (h.publishes u hu).same (Resolution.sameAt_publish s.res (hnot u hu))
  · intro id hid hout
    exact (h.same id hid fun u hu => hout u (List.mem_cons_of_mem t hu)).trans
      (Resolution.sameAt_publish s.res (hout t List.mem_cons_self).symm)

/-- **A layer that is underway stays so**, whatever happens next. -/
theorem step (h : r.Underway layer res inherited done out s) (hlayer : r.Separate layer)
    (hstep : r.LayerStep s s') : ∃ inherited done out, r.Underway layer res inherited done out s' := by
  cases hstep with
  | reuse hc htake => exact ⟨_, _, _, h.reuse hlayer hc htake⟩
  | start hc htake => exact ⟨_, _, _, h.start hlayer hc htake⟩
  | work hj hjob => exact ⟨_, _, _, h.work hlayer hj hjob⟩
  | collect hj hended hresults => exact ⟨_, _, _, h.collect hj hended hresults⟩
  | publish ht => exact ⟨_, _, _, h.publish hlayer ht⟩

/-! ### Where a layer ends -/

/-- What is taken over concerns no component that is summarised. -/
theorem summarizeComponent_base (hlayer : r.Separate layer) (hc : c ∈ r.leftOf res layer) :
    r.summarizeComponent (r.base res layer).summaries c = r.summarizeComponent res.summaries c := by
  obtain ⟨hpending, htake⟩ := List.mem_filter.1 hc
  have hmem : c ∈ layer := mem_layer_of_pendingOf hpending
  refine summarizeComponent_congr fun id hid f hf callee hcalls => ?_
  refine (sameAt_base fun d hd hidd hinherited => ?_).summary
  rcases hlayer.below c hmem id (mem_membersOf_iff.1 hid).1 callee (hlayer.calls id f hf callee hcalls)
    with hin | hout
  · rw [eq_of_mem_layer hlayer.disjoint hmem hd hin hidd, hinherited.2] at htake
    cases htake
  · exact hout d hd hidd

/-- A layer that can be resolved does not get stuck. -/
theorem exists_step (h : r.Underway layer res inherited done out s) (hlayer : r.Separate layer)
    (hok : r.resolveLayer res layer = .ok res') (hnot : ¬ s.Done) : ∃ s', r.LayerStep s s' := by
  cases hwaiting : s.waiting with
  | cons c rest =>
    have hc : c ∈ s.waiting := by rw [hwaiting]; exact List.mem_cons_self
    cases htake : r.takesOver s.res c with
    | true => exact ⟨_, .reuse hc htake⟩
    | false => exact ⟨_, .start hc htake⟩
  | nil =>
    cases hready : s.ready with
    | cons t rest => exact ⟨_, .publish (t := t) (by rw [hready]; exact List.mem_cons_self)⟩
    | nil =>
      cases hjobs : s.jobs with
      | nil => exact absurd ⟨hwaiting, hjobs, hready⟩ hnot
      | cons j rest =>
        have hj : j ∈ s.jobs := by rw [hjobs]; exact List.mem_cons_self
        have hleft : j.component ∈ r.leftOf res layer := by
          refine List.mem_filter.2 ⟨h.mem_pendingOf.2.2.1 j hj, ?_⟩
          rw [(h.working j hj).1]
          rfl
        rw [resolveLayer_eq] at hok
        obtain ⟨results, hresults, -⟩ := Result.exists_of_bind_eq_ok hok
        obtain ⟨rs, -, hrs⟩ := exists_right_of_forall₂ (Result.forall₂_of_mapM hresults) hleft
        rw [summarizeComponent_base hlayer hleft] at hrs
        have hcomponent := hrs
        rw [summarizeComponent_eq, ← outcome_startJob] at hcomponent
        obtain ⟨result, houtcome, -⟩ := Result.exists_of_bind_eq_ok hcomponent
        rw [← h.outcome_eq hlayer hj] at houtcome
        rcases exists_jobStep houtcome with hended | ⟨j', hstep⟩
        · rw [summarizeComponent_of_ended hended (h.working j hj).2.2] at hrs
          exact ⟨_, .collect hj hended hrs⟩
        · exact ⟨_, .work hj hstep⟩

/-- **A layer ends as if it had been resolved in one go.** -/
theorem resolveLayer_eq_ok (h : r.Underway layer res inherited done out s) (hlayer : r.Separate layer)
    (hdone : s.Done) : r.resolveLayer res layer = .ok s.res := by
  have hparts : (inherited ++ done.map Prod.fst).Perm (r.pendingOf layer) := by
    have hall := h.parts
    rwa [hdone.jobs, hdone.waiting, List.map_nil, List.append_nil, List.append_nil] at hall
  have hresults : out.Perm (done.map Prod.snd).flatten := by
    have hall := h.results
    rwa [hdone.ready, List.append_nil] at hall
  have hfinished : ∀ c ∈ r.leftOf res layer, ∃ e ∈ done, e.1 = c := by
    intro c hc
    obtain ⟨hpending, htake⟩ := List.mem_filter.1 hc
    rcases List.mem_append.1 (hparts.symm.subset hpending) with hover | hsummarised
    · rw [h.taken c hover] at htake
      cases htake
    · exact List.mem_map.1 hsummarised
  have hcomponent : ∀ e ∈ done, e.1 ∈ r.leftOf res layer →
      r.summarizeComponent (r.base res layer).summaries e.1 = .ok e.2 := fun e he hleft =>
    (summarizeComponent_base hlayer hleft).trans (h.finished e he).2
  obtain ⟨results, hmapM⟩ : ∃ results, (r.leftOf res layer).mapM
      (r.summarizeComponent (r.base res layer).summaries) = .ok results := by
    refine Result.exists_mapM_eq_ok fun c hc => ?_
    obtain ⟨e, he, rfl⟩ := hfinished c hc
    exact ⟨e.2, hcomponent e he hc⟩
  obtain ⟨res', hres'⟩ : ∃ res', r.resolveLayer res layer = .ok res' := by
    rw [resolveLayer_eq, hmapM]
    exact ⟨_, rfl⟩
  rw [hres']
  obtain ⟨hcomponents, hother⟩ :=
    outcome_of_resolveLayer hlayer.keyed hlayer.valid hlayer.disjoint hres'
  refine congrArg Except.ok (Resolution.eq_of_sameAt fun id => ?_)
  by_cases hid : ∃ c ∈ layer, id ∈ c
  · obtain ⟨c, hc, hid⟩ := hid
    rcases hcomponents c hc with ⟨hinherited, hinherits⟩ | ⟨hnot, rs, hrs, hspec, hpublished, hrest⟩
    · have hover : c ∈ inherited := by
        refine (List.mem_append.1 (hparts.symm.subset (mem_pendingOf_iff.2
          ⟨hc, hinherited.1⟩))).resolve_right fun hsummarised => ?_
        obtain ⟨e, he, rfl⟩ := List.mem_map.1 hsummarised
        have htake := (h.finished e he).1
        rw [hinherited.2] at htake
        cases htake
      exact (hinherits id hid).sameAt (h.inherits c hover id hid)
    · by_cases hvalid : id ∈ r.valid
      · have hmember := mem_membersOf_iff.2 ⟨hid, hvalid⟩
        obtain ⟨t, ht, rfl⟩ := hspec.complete id hmember
        have hleft : c ∈ r.leftOf res layer := by
          refine List.mem_filter.2 ⟨mem_pendingOf_iff.2 ⟨hc, _, hid, hvalid⟩, ?_⟩
          rw [Bool.not_eq_true', ← Bool.not_eq_true]
          exact fun htake => hnot ⟨⟨_, hid, hvalid⟩, htake⟩
        obtain ⟨e, he, rfl⟩ := hfinished c hleft
        have hsame : e.2 = rs := Except.ok.inj ((hcomponent e he hleft).symm.trans (hrs _ hmember))
        have hout : t ∈ out := hresults.symm.subset
          (List.mem_flatten.2 ⟨e.2, List.mem_map_of_mem he, hsame ▸ ht⟩)
        exact (hpublished t ht).sameAt (h.publishes t hout)
      · refine (hrest id hid hvalid).symm.trans (h.same id (fun d hd hidd => ?_) fun t ht he => ?_)
        · have hmem := h.mem_pendingOf.1 d hd
          obtain rfl := eq_of_mem_layer hlayer.disjoint hc (mem_layer_of_pendingOf hmem) hid hidd
          exact hnot ⟨(mem_pendingOf_iff.1 hmem).2, h.taken c hd⟩
        · obtain ⟨e, -, -, hmember⟩ := h.exists_finished hlayer (List.mem_append_left _ ht)
          exact hvalid (he ▸ (mem_membersOf_iff.1 hmember).2)
  · have hout : ∀ c ∈ layer, id ∉ c := fun c hc hidc => hid ⟨c, hc, hidc⟩
    exact (hother id hout).symm.trans (h.sameAt_outside hlayer hout)

end Underway

end Resolver

end TaintFlow
