import TaintFlow.Proofs.Summary.Unending

/-!
# Summaries made from more say more

A summary is made from a view of other summaries (`Resolver.Derives`).  When the view rises, so does
what is made from it, except that a crossing may get lost (`Derives.has_of_rises`).  The members of a
component are summarised one after the other, each from what the others have by then, and as long as no
crossing is lost every provisional summary was made from less than what is there now
(`Resolver.Rising`): so a round that takes no crossing away takes nothing away (`Rising.round`).
-/

namespace TaintFlow.Resolver

variable {r : Resolver} {published provisional next : NameMap Summary} {labels : Set Identity}

/-! ### Summaries made from other summaries -/

/-- Nothing but the given labels is said to be made. -/
def MakesOnly (labels : Set Identity) (view : String → Option Summary) : Prop :=
  ∀ id s, view id = some s → ∀ output i, s.Has (.made output i) → i ∈ labels

/-- The summary of a function, made from summaries that make the given labels only. -/
def Derives (r : Resolver) (labels : Set Identity) (view : String → Option Summary) (id : String)
    (s : Summary) : Prop :=
  ∃ f, r.program.functions.get? id = some f ∧ MakesOnly labels view ∧ r.summarize view f = .ok s

/-- Labels without markers, among them all that are fresh. -/
structure Suits (r : Resolver) (labels : Set Identity) : Prop where
  fresh : ∀ i, r.rules.Fresh i → i ∈ labels
  unmarked : ∀ i ∈ labels, i.symbols = ∅

theorem MakesOnly.calleesMake {view : String → Option Summary} (h : MakesOnly labels view)
    {f : Function} {i : Identity} (hi : (r.frameOf view f).CalleesMake i) : i ∈ labels := by
  obtain ⟨callee, effect, output, he, hi⟩ := hi
  obtain ⟨s, hs, rfl⟩ := Option.map_eq_some_iff.1 he
  exact h callee s hs output i hi

theorem MakesOnly.view (hpublished : MakesOnly labels published.get?)
    (hprovisional : MakesOnly labels provisional.get?) :
    MakesOnly labels (view published provisional) := by
  intro id s hs
  unfold Resolver.view at hs
  cases hget : provisional.get? id with
  | some t =>
    rw [hget, Option.some_or, Option.some.injEq] at hs
    exact hprovisional id s (hs ▸ hget)
  | none =>
    rw [hget, Option.none_or] at hs
    exact hpublished id s hs

/-- The parts that a summary of a member can have, whatever it is made from. -/
def possibleParts (r : Resolver) (labels : Set Identity) (id : String) : Set Effect.Part :=
  {part | ∃ f, r.program.functions.get? id = some f ∧
    (r.frameOf (fun _ => none) f).Possible labels part}

theorem finite_possibleParts (hfinite : labels.Finite) (id : String) :
    (r.possibleParts labels id).Finite := by
  unfold possibleParts
  cases r.program.functions.get? id with
  | none => simp
  | some f => simpa using (r.frameOf (fun _ => none) f).finite_possible hfinite

namespace Derives

variable {view view' : String → Option Summary} {id : String} {s s' : Summary}

theorem plain (h : r.Derives labels view id s) (hsuits : r.Suits labels)
    (hknown : s.unknown = false) : s.toEffect.Plain := by
  obtain ⟨f, -, hview, hs⟩ := h
  rcases summarize_cases hs with ⟨a, ha, rfl⟩ | ⟨error, rfl⟩
  · exact (r.frameOf view f).plain_ofAnalysis ha fun i hi =>
      hsuits.unmarked i (hview.calleesMake hi)
  · cases hknown

theorem possible (h : r.Derives labels view id s) (hsuits : r.Suits labels) {part : Effect.Part}
    (hpart : s.Has part) : part ∈ r.possibleParts labels id := by
  obtain ⟨f, hf, hview, hs⟩ := h
  rcases summarize_cases hs with ⟨a, ha, rfl⟩ | ⟨error, rfl⟩
  · refine ⟨f, hf, ?_⟩
    refine (r.frameOf view f).possible_of_has ha
      (fun i hi => hsuits.unmarked i (hview.calleesMake hi)) ?_ hpart
    rintro i (hfresh | hmade)
    · exact hsuits.fresh i hfresh
    · exact hview.calleesMake hmade
  · cases part with
    | flow input output =>
      obtain ⟨t, ht, -⟩ := hpart
      exact absurd ht (OrderedSet.not_mem_empty t)
    | crossing input output =>
      obtain ⟨t, ht, -⟩ := hpart
      exact absurd ht (OrderedSet.not_mem_empty t)
    | made output i => cases hpart
    | defined output d => exact absurd hpart (OrderedSet.not_mem_empty d)

theorem mem_labels (h : r.Derives labels view id s) (hsuits : r.Suits labels) {output : String}
    {i : Identity} (hi : s.Has (.made output i)) : i ∈ labels := by
  obtain ⟨f, -, -, hlabel⟩ := h.possible hsuits hi
  exact hlabel

end Derives

/-- The second view says of every function all that the first one says. -/
def Rises (view view' : String → Option Summary) : Prop :=
  ∀ callee, (((view callee).map Summary.toEffect).getD .pending).Below
    (((view' callee).map Summary.toEffect).getD .pending)

theorem Rises.trans {view view' view'' : String → Option Summary} (h : Rises view view')
    (h' : Rises view' view'') : Rises view view'' := fun callee => (h callee).trans (h' callee)

/-- **A summary made from more has all the parts of one made from less**, if it has its crossings. -/
theorem Derives.has_of_rises {view view' : String → Option Summary} {id : String} {s s' : Summary}
    (h : r.Derives labels view id s) (h' : r.Derives labels view' id s') (hrises : Rises view view')
    (hknown : s.unknown = false) (hknown' : s'.unknown = false)
    (hcrossings : ∀ input output, s.Has (.crossing input output) → s'.Has (.crossing input output))
    {part : Effect.Part} (hpart : s.Has part) : s'.Has part := by
  obtain ⟨f, hf, -, hs⟩ := h
  obtain ⟨f', hf', -, hs'⟩ := h'
  obtain rfl : f = f' := Option.some.inj (hf.symm.trans hf')
  rcases summarize_cases hs with ⟨a, ha, rfl⟩ | ⟨error, rfl⟩
  · rcases summarize_cases hs' with ⟨a', ha', rfl⟩ | ⟨error, rfl⟩
    · have hraises : (r.frameOf view f).Raises (r.frameOf view' f).effects := hrises
      refine Summary.has_of_within (hraises.within_exit ha ha') ?_ hcrossings part hpart
      rw [Frame.globals_of_analyze ha, Frame.globals_of_analyze ha']
      rfl
    · cases hknown'
  · cases hknown

/-! ### What a round keeps -/

/-- A part that the effect of some member has in the first table and no longer in the second. -/
def Loses (table table' : NameMap Summary) (part : Effect.Part) : Prop :=
  ∃ id s s', table.get? id = some s ∧ table'.get? id = some s' ∧ s.Has part ∧ ¬ s'.Has part

def Derived (r : Resolver) (labels : Set Identity) (provisional : NameMap Summary) : Prop :=
  ∀ id s, provisional.get? id = some s → ∃ view, r.Derives labels view id s

theorem Derived.makesOnly (h : r.Derived labels provisional) (hsuits : r.Suits labels) :
    MakesOnly labels provisional.get? := by
  intro id s hs output i hi
  obtain ⟨view, hview⟩ := h id s hs
  exact hview.mem_labels hsuits hi

theorem Derived.round (h : r.Derived labels provisional) (hsuits : r.Suits labels)
    (hpublished : MakesOnly labels published.get?) {ids : List String} {changed changed' : Bool}
    (hround : ids.foldlM (r.refine published) (provisional, changed) = .ok (next, changed')) :
    r.Derived labels next := by
  refine round_induction hround h fun table id f new _ htable hf _ hnew other s hs => ?_
  rw [OrderedMap.get?_set] at hs
  split at hs
  · next he =>
    subst he
    cases hs
    exact ⟨_, f, hf, hpublished.view (htable.makesOnly hsuits), hnew⟩
  · exact htable other s hs

/-- Each provisional summary was made from a view that says no more than the present one. -/
def Rising (r : Resolver) (labels : Set Identity) (published provisional : NameMap Summary) : Prop :=
  ∀ id s, provisional.get? id = some s → ∃ earlier, r.Derives labels earlier id s ∧
    Rises earlier (view published provisional)

theorem Rising.derived (h : r.Rising labels published provisional) :
    r.Derived labels provisional := by
  intro id s hs
  obtain ⟨earlier, hearlier, -⟩ := h id s hs
  exact ⟨earlier, hearlier⟩

/-- A new summary that says all that the old one said raises the view. -/
theorem rises_view_set {id : String} {new : Summary} (hunpublished : published.get? id = none)
    (hknown : new.unknown = false)
    (hold : ∀ old, provisional.get? id = some old → old.toEffect.Below new.toEffect) :
    Rises (view published provisional) (view published (provisional.set id new)) := by
  intro callee
  unfold view
  by_cases he : callee = id
  · subst he
    rw [OrderedMap.get?_set_self]
    cases hget : provisional.get? callee with
    | none =>
      rw [hunpublished]
      exact .pending hknown
    | some old => exact hold old hget
  · rw [OrderedMap.get?_set_ne _ _ he]
    exact .refl _

/-- **One member of a round.**  Its old summary was made from less, so the new one has all parts of the
old one, if it has its crossings. -/
theorem Rising.set (h : r.Rising labels published provisional) (hsuits : r.Suits labels)
    (hpublished : MakesOnly labels published.get?) {id : String} {f : Function} {new : Summary}
    (hf : r.program.functions.get? id = some f)
    (hnew : r.summarize (view published provisional) f = .ok new)
    (hunpublished : published.get? id = none)
    (hknown : ∀ other s, provisional.get? other = some s → s.unknown = false)
    (hknown' : new.unknown = false)
    (hcrossings : ∀ old, provisional.get? id = some old → ∀ input output,
      old.Has (.crossing input output) → new.Has (.crossing input output)) :
    r.Rising labels published (provisional.set id new) ∧
      ∀ part, ¬ Loses provisional (provisional.set id new) part := by
  have hderives : r.Derives labels (view published provisional) id new :=
    ⟨f, hf, hpublished.view (h.derived.makesOnly hsuits), hnew⟩
  have hparts : ∀ old, provisional.get? id = some old → ∀ part, old.Has part → new.Has part := by
    intro old hold part hpart
    obtain ⟨earlier, hearlier, hrises⟩ := h id old hold
    exact hearlier.has_of_rises hderives hrises (hknown id old hold) hknown' (hcrossings old hold)
      hpart
  have hrises : Rises (view published provisional) (view published (provisional.set id new)) := by
    refine rises_view_set hunpublished hknown' fun old hold => ?_
    obtain ⟨earlier, hearlier, -⟩ := h id old hold
    exact (hearlier.plain hsuits (hknown id old hold)).below_of_has (hderives.plain hsuits hknown')
      (hparts old hold)
  constructor
  · intro other s hs
    rw [OrderedMap.get?_set] at hs
    split at hs
    · next he =>
      subst he
      cases hs
      exact ⟨_, hderives, hrises⟩
    · obtain ⟨earlier, hearlier, hbefore⟩ := h other s hs
      exact ⟨earlier, hearlier, hbefore.trans hrises⟩
  · rintro part ⟨other, s, s', hs, hs', hpart, hnot⟩
    rw [OrderedMap.get?_set] at hs'
    split at hs'
    · next he =>
      subst he
      cases hs'
      exact hnot (hparts s hs part hpart)
    · rw [hs, Option.some.injEq] at hs'
      exact hnot (hs' ▸ hpart)

/-- **A round that takes no crossing away takes nothing away.** -/
theorem Rising.round (h : r.Rising labels published provisional) (hsuits : r.Suits labels)
    (hpublished : MakesOnly labels published.get?) {ids : List String} (hnodup : ids.Nodup)
    (hunpublished : ∀ id ∈ ids, published.get? id = none) {changed changed' : Bool}
    (hround : ids.foldlM (r.refine published) (provisional, changed) = .ok (next, changed'))
    (hknown : ∀ id s, provisional.get? id = some s → s.unknown = false)
    (hknown' : ∀ id s, next.get? id = some s → s.unknown = false)
    (hcrossings : ∀ input output, ¬ Loses provisional next (.crossing input output)) :
    r.Rising labels published next ∧ ∀ part, ¬ Loses provisional next part := by
  induction ids generalizing provisional changed with
  | nil =>
    cases hround
    refine ⟨h, ?_⟩
    rintro part ⟨id, s, s', hs, hs', hpart, hnot⟩
    rw [hs, Option.some.injEq] at hs'
    exact hnot (hs' ▸ hpart)
  | cons id rest ih =>
    obtain ⟨hid, hrestNodup⟩ := List.nodup_cons.1 hnodup
    have hrestUnpublished : ∀ other ∈ rest, published.get? other = none :=
      fun other ho => hunpublished other (List.mem_cons_of_mem id ho)
    rw [List.foldlM_cons] at hround
    obtain ⟨⟨mid, changedMid⟩, hfirst, hrest⟩ := Result.exists_of_bind_eq_ok hround
    rcases refine_cases hfirst with ⟨rfl, -, -⟩ | ⟨f, new, hf, hnew, -, rfl, -⟩
    · exact ih h hrestNodup hrestUnpublished hrest hknown hcrossings
    · -- the other members of the round leave the new summary as it is
      have hfinal : next.get? id = some new :=
        (get?_of_round hid hrest).trans (OrderedMap.get?_set_self _ _ _)
      have hnewKnown := hknown' id new hfinal
      obtain ⟨hrising, hkept⟩ := h.set hsuits hpublished hf hnew
        (hunpublished id List.mem_cons_self) hknown hnewKnown fun old hold input output hcross => by
          by_contra hnot
          exact hcrossings input output ⟨id, old, new, hold, hfinal, hcross, hnot⟩
      have hmidKnown : ∀ other s, (provisional.set id new).get? other = some s →
          s.unknown = false := by
        intro other s hs
        rw [OrderedMap.get?_set] at hs
        split at hs
        · cases hs
          exact hnewKnown
        · exact hknown other s hs
      obtain ⟨hnext, hrestKept⟩ := ih hrising hrestNodup hrestUnpublished hrest hmidKnown (by
        rintro input output ⟨other, s, s', hs, hs', hcross, hnot⟩
        rw [OrderedMap.get?_set] at hs
        split at hs
        · next he =>
          subst he
          rw [hfinal, hs] at hs'
          cases hs'
          exact hnot hcross
        · exact hcrossings input output ⟨other, s, s', hs, hs', hcross, hnot⟩)
      refine ⟨hnext, ?_⟩
      rintro part ⟨other, s, s', hs, hs', hpart, hnot⟩
      obtain ⟨t, ht⟩ := OrderedMap.exists_get?_set ⟨s, hs⟩ id new
      by_cases hmiddle : t.Has part
      · exact hrestKept part ⟨other, t, s', ht, hs', hmiddle, hnot⟩
      · exact hkept part ⟨other, s, t, hs, ht, hpart, hmiddle⟩

end TaintFlow.Resolver
