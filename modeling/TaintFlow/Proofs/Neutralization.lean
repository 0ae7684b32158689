import Mathlib.Data.Int.Order.Basic
import Mathlib.Data.List.Forall2
import Mathlib.Data.List.TakeWhile
import TaintFlow.Neutralization
import TaintFlow.Proofs.Collection

/-!
# What makes a verdict

Layers are matched to steps greedily, each to the first step that will do after those that are taken
already.  The verdict is nevertheless that on any choice of steps: a path is neutralized exactly if some
step is a parameterization or steps can be chosen for the layers, innermost first, at increasing positions
(`Verdict.Neutralized`, `Verdict.judge?_exact`).  The first step that will do is never later than one that
was chosen (`Step.exists_first?_le`), so whatever was chosen for the layers further out is still free.
-/

namespace TaintFlow

namespace Step

def Before (s t : Step) : Prop := s.place < t.place

/-- Steps as they lie along a path: at positions of at least one, which never decrease. -/
structure InOrder (steps : List Step) : Prop where
  placed : ∀ s ∈ steps, s.isPlaced = true
  positive : ∀ s ∈ steps, (Atom.whole 1).measure ≤ s.place
  ordered : steps.Pairwise (fun s t => s.place ≤ t.place)

variable {steps : List Step} {layer : Context} {after : Int} {strengths : List Strength} {s t : Step}

theorem of_first? (h : first? steps layer after strengths = some s) :
    s ∈ steps ∧ after < s.place ∧ s.strength ∈ strengths ∧ s.covers layer = true := by
  have hfits := List.find?_some h
  simp only [Bool.and_eq_true, decide_eq_true_eq] at hfits
  exact ⟨List.mem_of_find?_eq_some h, hfits.1.1, hfits.1.2, hfits.2⟩

/-- **The first step that will do is the earliest one.** -/
theorem exists_first?_le (hordered : steps.Pairwise (fun s t => s.place ≤ t.place)) (ht : t ∈ steps)
    (hafter : after < t.place) (hstrength : t.strength ∈ strengths) (hcovers : t.covers layer = true) :
    ∃ s, first? steps layer after strengths = some s ∧ s.place ≤ t.place := by
  have hfits : (decide (after < t.place) && decide (t.strength ∈ strengths) && t.covers layer) = true := by
    simp [hafter, hstrength, hcovers]
  unfold first?
  induction steps with
  | nil => exact absurd ht List.not_mem_nil
  | cons s rest ih =>
    obtain ⟨hfirst, hordered⟩ := List.pairwise_cons.1 hordered
    rw [List.find?_cons]
    split
    · refine ⟨s, rfl, ?_⟩
      rcases List.mem_cons.1 ht with rfl | ht
      · exact le_refl _
      · exact hfirst t ht
    · next hskipped =>
      rcases List.mem_cons.1 ht with rfl | ht
      · rw [hfits] at hskipped
        cases hskipped
      · exact ih hordered ht

/-! ### Steps on a path -/

/-- The nodes of a path between its ends, with their positions. -/
def between (path : List String) : List (Nat × String) :=
  (((List.range path.length).zip path).drop 1).dropLast

def stepsAt (p : Program) (rules : Registry) (position : Nat) (key : String) : List Step :=
  match p.node? key with
  | none => []
  | some n =>
    if n.kind = .call then
      (rules.sanitizersOf n.api).map (fun rule =>
        ⟨.text key, .text n.api.asText, rule.contexts, rule.strength, .whole position⟩)
    else []

theorem onPath_eq (p : Program) (rules : Registry) (path : List String) :
    onPath p rules path = (between path).flatMap (fun a => stepsAt p rules a.1 a.2) := rfl

theorem pairwise_between (path : List String) :
    (between path).Pairwise (fun a b => a.1 < b.1) ∧ ∀ a ∈ between path, 1 ≤ a.1 := by
  have hindexed : ((List.range path.length).zip path).Pairwise (fun a b => a.1 < b.1) := by
    refine List.pairwise_map.1
      (?_ : (((List.range path.length).zip path).map Prod.fst).Pairwise (· < ·))
    rw [List.map_fst_zip (by simp)]
    exact List.pairwise_lt_range
  refine ⟨hindexed.sublist ((List.dropLast_sublist _).trans (List.drop_sublist 1 _)), fun a ha => ?_⟩
  have ha : a ∈ ((List.range path.length).zip path).drop 1 := List.dropLast_subset _ ha
  generalize (List.range path.length).zip path = indexed at hindexed ha
  cases indexed with
  | nil => exact absurd ha List.not_mem_nil
  | cons first rest => exact Nat.one_le_of_lt ((List.pairwise_cons.1 hindexed).1 a ha)

theorem position_of_mem_stepsAt {p : Program} {rules : Registry} {position : Nat} {key : String}
    (h : s ∈ stepsAt p rules position key) : s.position = .whole position := by
  unfold stepsAt at h
  split at h
  · exact absurd h List.not_mem_nil
  · split at h
    · obtain ⟨rule, -, rfl⟩ := List.mem_map.1 h
      rfl
    · exact absurd h List.not_mem_nil

theorem place_le_place {m n : Nat} (hs : s.position = .whole m) (ht : t.position = .whole n)
    (h : m ≤ n) : s.place ≤ t.place := by
  unfold place
  rw [hs, ht]
  exact Int.mul_le_mul_of_nonneg_right (Int.ofNat_le.2 h) (by decide +kernel)

/-- **The sanitizer calls on a path are in order**, whatever the rules: the steps of one call stand at one
position. -/
theorem inOrder_onPath (p : Program) (rules : Registry) (path : List String) :
    InOrder (onPath p rules path) := by
  obtain ⟨hincreasing, hpositive⟩ := pairwise_between path
  rw [onPath_eq]
  refine ⟨fun s hs => ?_, fun s hs => ?_, List.pairwise_flatMap.2 ⟨fun a _ => ?_, ?_⟩⟩
  · obtain ⟨a, -, hs⟩ := List.mem_flatMap.1 hs
    unfold isPlaced
    rw [position_of_mem_stepsAt hs]
    rfl
  · obtain ⟨a, ha, hs⟩ := List.mem_flatMap.1 hs
    exact place_le_place (s := { s with position := .whole (1 : Nat) }) rfl (position_of_mem_stepsAt hs)
      (hpositive a ha)
  · exact List.pairwise_of_forall_mem_list fun s hs t ht =>
      place_le_place (position_of_mem_stepsAt hs) (position_of_mem_stepsAt ht) (le_refl _)
  · exact hincreasing.imp fun hlt s hs t ht =>
      place_le_place (position_of_mem_stepsAt hs) (position_of_mem_stepsAt ht) hlt.le

end Step

namespace Verdict

open Step (first? Before)

/-- Some steps protect a layer: one that lets pass only what is safe there or brings it to one form, or,
where the layer requires it, one that brings it to one form and then one that lets pass only what is
safe. -/
inductive Protects (required : Context → Bool) (layer : Context) : List Step → Prop
  | validated {s : Step} (hfree : required layer = false) (hcovers : s.covers layer = true)
      (hstrength : s.strength = .whitelist ∨ s.strength = .canonicalization) :
      Protects required layer [s]
  | canonicalized {canon validation : Step} (hrequired : required layer = true)
      (hcanon : canon.strength = .canonicalization) (hcovers : canon.covers layer = true)
      (hvalidation : validation.strength = .whitelist) (hcovers' : validation.covers layer = true) :
      Protects required layer [canon, validation]

/-- Steps of a path are chosen for layers, innermost first, at increasing positions over the whole
choice. -/
structure Chooses (required : Context → Bool) (steps : List Step) (layers : List Context)
    (chosen : List (List Step)) : Prop where
  protects : List.Forall₂ (Protects required) layers chosen
  among : ∀ s ∈ chosen.flatten, s ∈ steps
  ordered : chosen.flatten.Pairwise Before

/-- The steps neutralize a context: one of them is a parameterization, or they can be chosen for its
layers. -/
def Neutralized (required : Context → Bool) (steps : List Step) (context : Composite) : Prop :=
  (∃ s ∈ steps, s.strength = .parameterization) ∨ ∃ chosen, Chooses required steps context.layers chosen

/-- Nothing is known of the origin, and no step has to do with the context. -/
def Unexplained (steps : List Step) (context : Composite) (label : Label) : Prop :=
  (∀ s ∈ steps, s.strength ≠ .parameterization ∧ ∀ layer ∈ context.layers, s.covers layer = false) ∧
    label.origins = .singleton .unknownExternal

variable {required : Context → Bool} {steps : List Step} {context : Composite} {layer : Context}
  {floor next : Int} {matched found : List Step} {layers : List Context} {label : Label}

/-! ### One layer -/

theorem Protects.exists_covers (h : Protects required layer found) :
    ∃ s ∈ found, s.covers layer = true := by
  cases h with
  | validated _ hcovers _ => exact ⟨_, List.mem_cons_self, hcovers⟩
  | canonicalized _ _ hcovers _ _ => exact ⟨_, List.mem_cons_self, hcovers⟩

/-- Steps that are found for a layer protect it, after the floor and no later than the next floor. -/
theorem protects_of_matchLayer (h : matchLayer required steps context floor layer = .ok (found, next)) :
    Protects required layer found ∧ (∀ s ∈ found, s ∈ steps ∧ floor < s.place ∧ s.place ≤ next) ∧
      found.Pairwise Before ∧ floor < next := by
  unfold matchLayer at h
  split at h
  · next hrequired =>
    split at h
    · cases h
    · next canon hcanon =>
      split at h
      · cases h
      · next validation hvalidation =>
        cases h
        obtain ⟨hmem, hfloor, hstrength, hcovers⟩ := Step.of_first? hcanon
        obtain ⟨hmem', hfloor', hstrength', hcovers'⟩ := Step.of_first? hvalidation
        refine ⟨.canonicalized hrequired (List.mem_singleton.1 hstrength) hcovers
          (List.mem_singleton.1 hstrength') hcovers', ?_, List.pairwise_pair.2 hfloor',
          hfloor.trans hfloor'⟩
        simp only [List.forall_mem_cons]
        exact ⟨⟨hmem, hfloor, hfloor'.le⟩, ⟨hmem', hfloor.trans hfloor', le_refl _⟩,
          fun _ hs => absurd hs List.not_mem_nil⟩
  · next hfree =>
    split at h
    · next s hs =>
      cases h
      obtain ⟨hmem, hfloor, hstrength, hcovers⟩ := Step.of_first? hs
      refine ⟨.validated (by simpa using hfree) hcovers (by simpa using hstrength), ?_,
        List.pairwise_singleton _ _, hfloor⟩
      simp only [List.forall_mem_cons]
      exact ⟨⟨hmem, hfloor, le_refl _⟩, fun _ hs => absurd hs List.not_mem_nil⟩
    · split at h <;> cases h

/-- A layer that some steps protect is matched, no later than by them. -/
theorem exists_matchLayer (context : Composite) (hordered : steps.Pairwise (fun s t => s.place ≤ t.place))
    {chosen : List Step} (hprotects : Protects required layer chosen)
    (hamong : ∀ s ∈ chosen, s ∈ steps ∧ floor < s.place) (hbefore : chosen.Pairwise Before) :
    ∃ found next, matchLayer required steps context floor layer = .ok (found, next) ∧
      ∃ s ∈ chosen, next ≤ s.place := by
  unfold matchLayer
  cases hprotects with
  | @validated s hfree hcovers hstrength =>
    obtain ⟨hmem, hfloor⟩ := hamong s List.mem_cons_self
    obtain ⟨earliest, hfirst, hle⟩ := Step.exists_first?_le hordered hmem hfloor
      (show s.strength ∈ [.whitelist, .canonicalization] by simpa using hstrength) hcovers
    rw [if_neg (by simp [hfree]), hfirst]
    exact ⟨_, _, rfl, s, List.mem_cons_self, hle⟩
  | @canonicalized canon validation hrequired hcanon hcovers hvalidation hcovers' =>
    obtain ⟨hmem, hfloor⟩ := hamong canon List.mem_cons_self
    obtain ⟨hmem', -⟩ := hamong validation (by simp)
    have hlater : canon.place < validation.place := by simpa [Before] using hbefore
    obtain ⟨earliest, hfirst, hle⟩ := Step.exists_first?_le hordered hmem hfloor
      (List.mem_singleton.2 hcanon) hcovers
    obtain ⟨earliest', hfirst', hle'⟩ := Step.exists_first?_le hordered hmem' (hle.trans_lt hlater)
      (List.mem_singleton.2 hvalidation) hcovers'
    rw [if_pos hrequired, hfirst]
    dsimp only
    rw [hfirst']
    exact ⟨_, _, rfl, validation, by simp, hle'⟩

/-! ### All layers -/

/-- **Greedy matching finds a choice if there is one**, after whatever is matched already. -/
theorem matchLayers_sufficient_iff (hordered : steps.Pairwise (fun s t => s.place ≤ t.place)) :
    (matchLayers required steps context floor matched layers).classification = .sufficient ↔
      ∃ chosen, Chooses required steps layers chosen ∧ ∀ s ∈ chosen.flatten, floor < s.place := by
  induction layers generalizing floor matched with
  | nil =>
    refine iff_of_true rfl ⟨[], ⟨.nil, ?_, .nil⟩, ?_⟩ <;> simp
  | cons layer rest ih =>
    rw [matchLayers]
    constructor
    · intro h
      split at h
      · cases h
      · next found next hmatch =>
        obtain ⟨hprotects, hfound, hbefore, hnext⟩ := protects_of_matchLayer hmatch
        obtain ⟨chosen, hchosen, habove⟩ := ih.1 h
        refine ⟨found :: chosen, ⟨.cons hprotects hchosen.protects, ?_, ?_⟩, ?_⟩
        · intro s hs
          rcases List.mem_append.1 hs with hs | hs
          · exact (hfound s hs).1
          · exact hchosen.among s hs
        · refine List.pairwise_append.2 ⟨hbefore, hchosen.ordered, fun s hs t ht => ?_⟩
          exact (hfound s hs).2.2.trans_lt (habove t ht)
        · intro s hs
          rcases List.mem_append.1 hs with hs | hs
          · exact (hfound s hs).2.1
          · exact hnext.trans (habove s hs)
    · rintro ⟨chosen, ⟨hprotects, hamong, hbefore⟩, habove⟩
      cases hprotects with
      | @cons _ own _ others hprotects hothers =>
        simp only [List.flatten_cons, List.mem_append] at hamong habove
        rw [List.flatten_cons, List.pairwise_append] at hbefore
        obtain ⟨hown, hrest, hacross⟩ := hbefore
        obtain ⟨found, next, hmatch, s, hs, hnext⟩ := exists_matchLayer context hordered
          hprotects (fun s hs => ⟨hamong s (Or.inl hs), habove s (Or.inl hs)⟩) hown
        rw [hmatch]
        -- what was chosen for the layers further out comes after a step that is not matched any later
        refine ih.2 ⟨others, ⟨hothers, fun t ht => hamong t (Or.inr ht), hrest⟩, fun t ht => ?_⟩
        exact hnext.trans_lt (hacross s hs t ht)

theorem matchLayers_ne_unknown :
    (matchLayers required steps context floor matched layers).classification ≠ .unknown := by
  induction layers generalizing floor matched with
  | nil => simp [matchLayers]
  | cons layer rest ih =>
    rw [matchLayers]
    split
    · simp
    · exact ih

/-! ### The verdict -/

/-- Steps that are chosen for the layers of a context have to do with it. -/
theorem any_covers_of_chooses {chosen : List (List Step)}
    (h : Chooses required steps context.layers chosen) :
    steps.any (fun s => context.layers.any s.covers) = true := by
  obtain ⟨hprotects, hamong, -⟩ := h
  cases hprotects with
  | @cons _ own _ others hprotects hothers =>
    obtain ⟨s, hs, hcovers⟩ := hprotects.exists_covers
    refine List.any_eq_true.2 ⟨s, hamong s (by simp [hs]), List.any_eq_true.2 ⟨_, ?_, hcovers⟩⟩
    exact List.mem_cons_self

theorem judge_classification (h : Step.InOrder steps) (required : Context → Bool) (context : Composite)
    (label : Label) :
    ((judge required steps context label).classification = .sufficient ↔
      Neutralized required steps context) ∧
    ((judge required steps context label).classification = .unknown ↔
      Unexplained steps context label) := by
  have hfloor : ∀ s ∈ steps, (0 : Int) < s.place := fun s hs =>
    lt_of_lt_of_le (by decide +kernel) (h.positive s hs)
  unfold judge
  split
  · next s hs =>
    have hstrength : s.strength = .parameterization := by simpa using List.find?_some hs
    have hmem := List.mem_of_find?_eq_some hs
    refine ⟨iff_of_true rfl (Or.inl ⟨s, hmem, hstrength⟩), iff_of_false (by simp) ?_⟩
    exact fun hunexplained => (hunexplained.1 s hmem).1 hstrength
  · next hnone =>
    have hplain : ∀ s ∈ steps, s.strength ≠ .parameterization := by simpa using hnone
    have hcovers : Neutralized required steps context ↔
        ∃ chosen, Chooses required steps context.layers chosen :=
      or_iff_right fun ⟨s, hs, hstrength⟩ => hplain s hs hstrength
    rw [hcovers]
    split
    · next hrelevant =>
      rw [matchLayers_sufficient_iff h.ordered]
      refine ⟨exists_congr fun chosen => and_iff_left_of_imp fun hchosen s hs =>
        hfloor s (hchosen.among s hs), iff_of_false matchLayers_ne_unknown fun hunexplained => ?_⟩
      obtain ⟨s, hs, hany⟩ := List.any_eq_true.1 hrelevant
      obtain ⟨layer, hlayer, hcovered⟩ := List.any_eq_true.1 hany
      rw [(hunexplained.1 s hs).2 layer hlayer] at hcovered
      cases hcovered
    · next hrelevant =>
      have hnone : ¬ ∃ chosen, Chooses required steps context.layers chosen :=
        fun ⟨chosen, hchosen⟩ => hrelevant (any_covers_of_chooses hchosen)
      have hunexplained : Unexplained steps context label ↔
          label.origins = .singleton .unknownExternal := by
        refine and_iff_right fun s hs => ⟨hplain s hs, fun layer hlayer => ?_⟩
        by_contra hcovered
        refine hrelevant (List.any_eq_true.2 ⟨s, hs, List.any_eq_true.2 ⟨layer, hlayer, ?_⟩⟩)
        simpa using hcovered
      have hlabel : label.unknownOnly = true ↔ label.origins = .singleton .unknownExternal := by
        simp [Label.unknownOnly]
      rw [hunexplained, ← hlabel]
      split
      · next hunknown => exact ⟨iff_of_false (by simp) hnone, iff_of_true rfl hunknown⟩
      · next hknown => exact ⟨iff_of_false (by simp) hnone, iff_of_false (by simp) hknown⟩

theorem judge?_eq_ok (h : ∀ s ∈ steps, s.isPlaced = true) (required : Context → Bool)
    (context : Composite) (label : Label) :
    judge? required steps context label = .ok (judge required steps context label) := by
  have hplaced : steps.takeWhile Step.isPlaced = steps := List.takeWhile_eq_self_iff.2 h
  unfold judge?
  simp [hplaced]

/-- **The verdict is that of the best choice of steps.**  It is sufficient exactly if the steps neutralize
the context, unknown exactly if nothing is known of the origin and no step has to do with the context, and
insufficient otherwise. -/
theorem judge?_exact (rules : Registry) (steps : List Step) (context : Composite) (label : Label)
    (h : Step.InOrder steps) :
    ∃ v, judge? rules.requiresCanonicalization steps context label = .ok v ∧
      (v.classification = .sufficient ↔ Neutralized rules.requiresCanonicalization steps context) ∧
      (v.classification = .unknown ↔ Unexplained steps context label) ∧
      (v.classification = .insufficient ↔ ¬ Neutralized rules.requiresCanonicalization steps context ∧
        ¬ Unexplained steps context label) := by
  obtain ⟨hsufficient, hunknown⟩ :=
    judge_classification h rules.requiresCanonicalization context label
  refine ⟨_, judge?_eq_ok h.placed _ context label, hsufficient, hunknown, ?_⟩
  rw [← hsufficient, ← hunknown]
  cases (judge rules.requiresCanonicalization steps context label).classification <;> simp

theorem judge_onPath (p : Program) (rules : Registry) (path : List String) (context : Composite)
    (label : Label) :
    (judge rules.requiresCanonicalization (Step.onPath p rules path) context label).classification =
        .sufficient ↔
      Neutralized rules.requiresCanonicalization (Step.onPath p rules path) context :=
  (judge_classification (Step.inOrder_onPath p rules path) _ context label).1

/-! ### Layers that repeat, and steps at one position -/

/-- Two positions at which two rules apply, and two more. -/
def mixedSteps : List Step :=
  [⟨"f::a", "a", .ofList [.filesystemPath], .canonicalization, .whole 1⟩,
    ⟨"f::a", "a", .ofList [.scriptLiteral], .whitelist, .whole 1⟩,
    ⟨"f::b", "b", .ofList [.filesystemPath], .whitelist, .whole 2⟩,
    ⟨"f::b", "b", .ofList [.scriptLiteral, .filesystemPath], .canonicalization, .whole 2⟩,
    ⟨"f::c", "c", .ofList [.filesystemPath], .whitelist, .whole 3⟩,
    ⟨"f::d", "d", .ofList [.scriptLiteral], .canonicalization, .whole 4⟩]

/-- A script in a path in a script is neutralized by them. -/
theorem neutralized_mixedSteps : Step.InOrder mixedSteps ∧
    Neutralized (Registry.empty defaultCanonicalized).requiresCanonicalization mixedSteps
      ⟨.scriptLiteral, [.filesystemPath, .scriptLiteral]⟩ := by
  have hordered : Step.InOrder mixedSteps :=
    ⟨by decide +kernel, by decide +kernel, by decide +kernel⟩
  obtain ⟨v, hv, hsufficient, -⟩ := judge?_exact (.empty defaultCanonicalized) mixedSteps
    ⟨.scriptLiteral, [.filesystemPath, .scriptLiteral]⟩ (.source .cookie "f::n" none) hordered
  rw [judge?_eq_ok hordered.placed] at hv
  obtain rfl : _ = v := Except.ok.inj hv
  exact ⟨hordered, hsufficient.1 (by decide +kernel)⟩

end Verdict

end TaintFlow
