import Mathlib.Data.Set.Finite.Powerset
import Mathlib.Order.OrderIsoNat
import TaintFlow.Proofs.Summary.Ready
import TaintFlow.Proofs.Summary.Rising

/-!
# When the rounds converge

The summaries of a component have parts of a finite set only (`Unending.finite_parts`).  So the rounds
converge exactly when, from some round on, none of them takes a part away.  The first part that is lost
is a crossing (`Unending.exists_crossing_lost`): a component that keeps its crossings converges.

A crossing can be lost, because a join keeps the label that arrived first, whatever way it took.  There
is a component of two functions that pass the loss on to each other, round after round.
-/

namespace TaintFlow

/-- A growing sequence of subsets of a finite set stops growing. -/
theorem exists_subset_succ_of_finite {α : Type} {whole : Set α} (hfinite : whole.Finite)
    {s : Nat → Set α} (hwhole : ∀ n, s n ⊆ whole) {start : Nat}
    (hgrows : ∀ n, start ≤ n → s n ⊆ s (n + 1)) : ∃ n, start ≤ n ∧ s (n + 1) ⊆ s n := by
  have hsubsets : Finite {t | t ⊆ whole} := hfinite.finite_subsets
  let chain : Nat →o {t | t ⊆ whole} :=
    ⟨fun n => ⟨s (start + n), hwhole _⟩,
      monotone_nat_of_le_succ fun n => hgrows (start + n) (Nat.le_add_right start n)⟩
  obtain ⟨n, hn⟩ := WellFoundedGT.monotone_chain_condition chain
  have heq : s (start + n) = s (start + (n + 1)) :=
    congrArg Subtype.val (hn (n + 1) (Nat.le_succ n))
  exact ⟨start + n, Nat.le_add_right start n, heq ▸ subset_rfl⟩

namespace Resolver

variable {r : Resolver} {published : NameMap Summary} {labels : Set Identity}

/-! ### Rounds without end -/

namespace Unending

variable {members : List String} {table : Nat → NameMap Summary} {changed : Nat → Bool}

theorem derived (h : r.Unending published members table changed) (hsuits : r.Suits labels)
    (hpublished : MakesOnly labels published.get?) (n : Nat) : r.Derived labels (table n) := by
  induction n with
  | zero =>
    intro id s hs
    rw [h.start] at hs
    cases hs
  | succ n ih => exact ih.round hsuits hpublished (h.round n)

/-- As long as no round takes a crossing away, every summary was made from less. -/
theorem rising (h : r.Unending published members table changed) (hsuits : r.Suits labels)
    (hpublished : MakesOnly labels published.get?) (hnodup : members.Nodup)
    (hunpublished : ∀ id ∈ members, published.get? id = none) (n : Nat)
    (hcrossings : ∀ m < n, ∀ input output,
      ¬ Loses (table m) (table (m + 1)) (.crossing input output)) :
    r.Rising labels published (table n) := by
  induction n with
  | zero =>
    intro id s hs
    rw [h.start] at hs
    cases hs
  | succ n ih =>
    have hrising := ih fun m hm => hcrossings m (Nat.lt_succ_of_lt hm)
    exact (hrising.round hsuits hpublished hnodup hunpublished (h.round n) (h.known n)
      (h.known (n + 1)) (hcrossings n (Nat.lt_succ_self n))).1

/-- **The first part that is lost is a crossing.** -/
theorem exists_crossing_lost (h : r.Unending published members table changed)
    (hsuits : r.Suits labels) (hpublished : MakesOnly labels published.get?)
    (hnodup : members.Nodup) (hunpublished : ∀ id ∈ members, published.get? id = none) {n : Nat}
    {part : Effect.Part} (hlost : Loses (table n) (table (n + 1)) part) :
    ∃ m ≤ n, ∃ input output, Loses (table m) (table (m + 1)) (.crossing input output) := by
  by_contra hnone
  have hcrossings : ∀ m ≤ n, ∀ input output,
      ¬ Loses (table m) (table (m + 1)) (.crossing input output) :=
    fun m hm input output hl => hnone ⟨m, hm, input, output, hl⟩
  have hrising := h.rising hsuits hpublished hnodup hunpublished n
    fun m hm => hcrossings m (Nat.le_of_lt hm)
  exact (hrising.round hsuits hpublished hnodup hunpublished (h.round n) (h.known n)
    (h.known (n + 1)) (hcrossings n (Nat.le_refl n))).2 part hlost

/-- All parts of all summaries, each with the member that it belongs to, lie in a finite set. -/
theorem finite_parts (h : r.Unending published members table changed)
    (hkeyed : r.program.WellKeyed) (hsuits : r.Suits labels) (hfinite : labels.Finite)
    (hpublished : MakesOnly labels published.get?) :
    {p : String × Effect.Part | ∃ n s, (table n).get? p.1 = some s ∧ s.Has p.2}.Finite := by
  have hmembers : (⋃ id ∈ {id | id ∈ members},
      (fun part => (id, part)) '' r.possibleParts labels id).Finite :=
    (List.finite_toSet members).biUnion fun id _ => (finite_possibleParts hfinite id).image _
  refine hmembers.subset ?_
  rintro ⟨id, part⟩ ⟨n, s, hs, hpart⟩
  obtain ⟨view, hview⟩ := h.derived hsuits hpublished n id s hs
  refine Set.mem_biUnion (h.provides hkeyed n id s hs).1 ⟨part, ?_, rfl⟩
  exact hview.possible hsuits hpart

/-- **If from some round on nothing is lost, some round changes nothing.** -/
theorem exists_unchanged (h : r.Unending published members table changed)
    (hkeyed : r.program.WellKeyed) (hsuits : r.Suits labels) (hfinite : labels.Finite)
    (hpublished : MakesOnly labels published.get?) (hnodup : members.Nodup)
    (hfunctions : ∀ id ∈ members, ∃ f, r.program.functions.get? id = some f) {bound : Nat}
    (hkept : ∀ n, bound ≤ n → ∀ part, ¬ Loses (table n) (table (n + 1)) part) :
    ∃ n, changed n = false := by
  let parts : Nat → Set (String × Effect.Part) :=
    fun n => {p | ∃ s, (table n).get? p.1 = some s ∧ s.Has p.2}
  have hgrows : ∀ n, bound + 1 ≤ n → parts n ⊆ parts (n + 1) := by
    rintro n hn ⟨id, part⟩ ⟨s, hs, hpart⟩
    obtain ⟨s', hs'⟩ := exists_get?_of_round (h.round n) hs
    refine ⟨s', hs', ?_⟩
    by_contra hnot
    exact hkept n (by omega) part ⟨id, s, s', hs, hs', hpart, hnot⟩
  obtain ⟨n, hn, hstops⟩ := exists_subset_succ_of_finite
    (h.finite_parts hkeyed hsuits hfinite hpublished) (s := parts)
    (fun n p hp => ⟨n, hp⟩) hgrows
  refine ⟨n, ?_⟩
  by_contra hchanged
  have hchanged : changed n = true := by simpa using hchanged
  obtain ⟨id, hid, new, hnew, hdiffers⟩ := exists_differs_of_round hnodup (hchanged ▸ h.round n) rfl
  obtain ⟨old, hold⟩ := h.exists_get? hfunctions (by omega : 0 < n) hid
  obtain ⟨view, hview⟩ := h.derived hsuits hpublished n id old hold
  obtain ⟨view', hview'⟩ := h.derived hsuits hpublished (n + 1) id new hnew
  have hsame : new.toEffect.same old.toEffect = true := by
    refine (hview'.plain hsuits (h.known (n + 1) id new hnew)).same_of_has_iff
      (hview.plain hsuits (h.known n id old hold)) fun part => ⟨fun hpart => ?_, fun hpart => ?_⟩
    · obtain ⟨s, hs, hpart⟩ := hstops (⟨new, hnew, hpart⟩ : (id, part) ∈ parts (n + 1))
      rw [hold, Option.some.injEq] at hs
      exact hs ▸ hpart
    · obtain ⟨s, hs, hpart⟩ := hgrows n hn (⟨old, hold, hpart⟩ : (id, part) ∈ parts n)
      rw [hnew, Option.some.injEq] at hs
      exact hs ▸ hpart
  rw [hdiffers old hold] at hsame
  cases hsame

end Unending

/-! ### The labels of a program -/

/-- The labels that a component can make: fresh ones and those that published summaries make. -/
def labelsOf (r : Resolver) (published : NameMap Summary) : Set Identity :=
  {i | r.rules.Fresh i ∨ ∃ id s output, published.get? id = some s ∧ s.Has (.made output i)}

theorem finite_labelsOf (r : Resolver) (published : NameMap Summary) :
    (r.labelsOf published).Finite := by
  let fresh : List Identity := ⟨.singleton .unknownExternal, none, ∅⟩ ::
    r.rules.sources.values.map (fun rule => ⟨.singleton rule.origin, rule.context, ∅⟩)
  let made := published.values.flatMap (fun s =>
    s.generated.values.flatMap (fun taint => taint.labels.map Label.identity))
  refine (List.finite_toSet (fresh ++ made)).subset ?_
  rintro i ((rfl | ⟨rule, hrule, rfl⟩) | ⟨id, s, output, hs, hi⟩)
  · exact List.mem_append_left _ List.mem_cons_self
  · refine List.mem_append_left _ (List.mem_cons_of_mem _ ?_)
    exact List.mem_map.2 ⟨rule, hrule, rfl⟩
  · obtain ⟨taint, htaint, hi⟩ := OrderedMap.has_getD_iff.1 hi
    obtain ⟨l, hl, rfl⟩ := TaintSet.has_iff.1 hi
    refine List.mem_append_right _ (List.mem_flatMap.2 ⟨s, OrderedMap.mem_values_iff.2 ⟨id, hs⟩, ?_⟩)
    exact List.mem_flatMap.2 ⟨taint, OrderedMap.mem_values_iff.2 ⟨output, htaint⟩,
      List.mem_map.2 ⟨l, hl, rfl⟩⟩

theorem Ready.suits {component : Names} (h : r.Ready published component) :
    r.Suits (r.labelsOf published) where
  fresh i hi := Or.inl hi
  unmarked i hi := by
    rcases hi with hfresh | ⟨id, s, output, hs, hi⟩
    · exact hfresh.symbols
    · exact h.unmarked id s hs output i hi

theorem makesOnly_labelsOf (r : Resolver) (published : NameMap Summary) :
    MakesOnly (r.labelsOf published) published.get? :=
  fun id s hs output _ hi => Or.inr ⟨id, s, output, hs, hi⟩

/-- **When the rounds over a component converge.**  Let the rounds over a recursive component go on
without end, and let no member become unknown.  Every large enough budget gives the members known
summaries exactly when from some round on nothing is lost.  A component in which no crossing is ever
lost converges. -/
theorem converges_iff_nothing_lost (p : Program) (rules : Registry) (limits : ResolveLimits)
    (previous : NameMap Summary) (hkeyed : p.WellKeyed) (published : NameMap Summary)
    (component : Names)
    (hready : (ofProgram p rules limits previous).Ready published component)
    (hrecursive : (ofProgram p rules limits previous).graph.isRecursive component = true)
    (table : Nat → NameMap Summary) (changed : Nat → Bool)
    (h : (ofProgram p rules limits previous).Unending published
      ((ofProgram p rules limits previous).membersOf component) table changed) :
    ((ofProgram p rules limits previous).Converges published component ↔
      ∃ bound, ∀ n, bound ≤ n → ∀ part, ¬ Loses (table n) (table (n + 1)) part) ∧
    ((∀ n input output, ¬ Loses (table n) (table (n + 1)) (.crossing input output)) →
      (ofProgram p rules limits previous).Converges published component) := by
  let r := ofProgram p rules limits previous
  have hnodup : (r.membersOf component).Nodup := component.nodup_toList.filter _
  have hfunctions : ∀ id ∈ r.membersOf component, ∃ f, r.program.functions.get? id = some f := by
    intro id hid
    obtain ⟨f, hf, -⟩ := mem_validFunctions_iff.1 (mem_membersOf_iff.1 hid).2
    exact ⟨f, hf⟩
  have hconverges := h.converges_iff hkeyed hfunctions hrecursive
  have hmakes := r.makesOnly_labelsOf published
  have hiff : r.Converges published component ↔
      ∃ bound, ∀ n, bound ≤ n → ∀ part, ¬ Loses (table n) (table (n + 1)) part := by
    rw [hconverges]
    constructor
    · rintro ⟨n, hn⟩
      refine ⟨n, fun m hm part => ?_⟩
      rw [(h.unchanged_of_le hn hm).1, (h.unchanged_of_le hn (Nat.le_succ_of_le hm)).1]
      rintro ⟨id, s, s', hs, hs', hpart, hnot⟩
      rw [hs, Option.some.injEq] at hs'
      exact hnot (hs' ▸ hpart)
    · rintro ⟨bound, hkept⟩
      exact h.exists_unchanged hkeyed hready.suits (r.finite_labelsOf published) hmakes hnodup
        hfunctions hkept
  refine ⟨hiff, fun hcrossings => hiff.2 ⟨0, fun n _ part hlost => ?_⟩⟩
  obtain ⟨m, -, input, output, hcrossing⟩ := h.exists_crossing_lost hready.suits hmakes hnodup
    hready.unpublished hlost
  exact hcrossings m input output hcrossing

end Resolver

/-- The function that calls itself has no crossing to lose, so it converges. -/
theorem converges_countdown : ∃ table changed,
    (Resolver.ofProgram countdown (.empty ∅) ⟨5, 3⟩ ∅).Unending ∅ ["f"] table changed ∧
      (Resolver.ofProgram countdown (.empty ∅) ⟨5, 3⟩ ∅).Converges ∅ (.singleton "f") := by
  let r := Resolver.ofProgram countdown (.empty ∅) ⟨5, 3⟩ ∅
  have hmembers : r.membersOf (.singleton "f") = ["f"] := by decide +kernel
  -- the first round finds the summary, and the second one confirms it
  obtain ⟨⟨first, changed⟩, hfirst, hagain⟩ := Result.exists_ok_of_any
    (r := ["f"].foldlM (r.refine ∅) (∅, false))
    (p := fun result => result.2 && result.1.values.all (fun s => !s.unknown) &&
      (["f"].foldlM (r.refine ∅) (result.1, false)).toOption.any (fun again => !again.2))
    (by decide +kernel)
  rw [Bool.and_eq_true, Bool.and_eq_true] at hagain
  obtain ⟨⟨rfl, hknown⟩, hagain⟩ := hagain
  obtain ⟨⟨second, changed⟩, hsecond, hunchanged⟩ := Result.exists_ok_of_any hagain
  obtain rfl : changed = false := by simpa using hunchanged
  obtain ⟨-, rfl, -⟩ := Resolver.settles_of_round hsecond
  have hrun : ∃ table, r.Unending ∅ ["f"] table (fun n => n = 0) ∧
      ∀ n, table n = if n = 0 then ∅ else second := by
    refine Resolver.exists_unending (fun n table => table = if n = 0 then ∅ else second) _ rfl ?_ ?_
    · rintro n table rfl
      cases n with
      | zero => exact ⟨second, hfirst, rfl⟩
      | succ n => exact ⟨second, hsecond, rfl⟩
    · rintro n table rfl id s hs
      cases n with
      | zero => cases hs
      | succ n =>
        have hvalue := List.all_eq_true.1 hknown s (OrderedMap.mem_values_iff.2 ⟨id, hs⟩)
        simpa using hvalue
  obtain ⟨table, htable, hkind⟩ := hrun
  have hready : r.Ready ∅ (.singleton "f") := ⟨fun id _ => rfl, fun id s hs => by cases hs⟩
  refine ⟨table, _, htable, ?_⟩
  refine (Resolver.converges_iff_nothing_lost countdown (.empty ∅) ⟨5, 3⟩ ∅ countdown_wellKeyed ∅
    (.singleton "f") hready (by decide +kernel) table _ (hmembers ▸ htable)).2 ?_
  rintro n input output ⟨id, s, s', hs, hs', hcross, hnot⟩
  rw [hkind] at hs hs'
  cases n with
  | zero => cases hs
  | succ n =>
    obtain rfl : s = s' := Option.some.inj (hs.symm.trans hs')
    exact hnot hcross

/-- Calls `callee`, or asks a library about `x` and returns the answer together with `y`. -/
def exchanger (id callee : String) (args : List (Option String)) : Function :=
  .bare id "test" ["x", "y"]
    [("test", .bare .branch ["call", "ask"]),
      ("call", { Node.bare .call ["last"] with
        callee := .text callee, args := args, target := .text "r" }),
      ("last", { Node.bare .ret [] with operands := ["r"] }),
      ("ask", { Node.bare .call ["end"] with
        api := .text "lib", args := [some "x"], target := .text "t" }),
      ("end", { Node.bare .ret [] with operands := ["t", "y"] })]

/-- Two functions that call each other; one of them exchanges the arguments. -/
def exchange : Program where
  functions := .ofList [("f", exchanger "f" "g" [some "x", some "y"]),
    ("g", exchanger "g" "f" [some "y", some "x"])]
  globals := ∅
  malformed := ∅

def exchangeResolver : Resolver := .ofProgram exchange (.empty ∅) ⟨5, 3⟩ ∅

/-- The effect of an exchanger: just one of its arguments crosses unknown code. -/
def exchangeEffect (id : String) (crossing : Bool) : Effect where
  transfers := .ofList [⟨paramMarker 0, returnSlot, crossing⟩, ⟨paramMarker 1, returnSlot, !crossing⟩]
  generated := ∅
  exitDefs := OrderedMap.empty.set returnSlot (.ofList [id ++ "::last", id ++ "::end"])
  unknown := false

/-- Of a view an exchanger uses only what it says of the function that it calls. -/
theorem exists_summary_exchanger {f : Function} (callee : String)
    (hcalls : f.nodes.entries.all (fun entry =>
      entry.2.callee = .null ∨ entry.2.callee = .text callee) = true)
    (known : Option Summary) {effect : Effect}
    (hfound : (exchangeResolver.summarize (fun id => if id = callee then known else none)
      f).toOption.any (fun s => s.toEffect = effect) = true)
    {view : String → Option Summary}
    (hview : (view callee).map Summary.toEffect = known.map Summary.toEffect) :
    ∃ s, exchangeResolver.summarize view f = .ok s ∧ s.toEffect = effect := by
  obtain ⟨s, hs, he⟩ := Result.exists_ok_of_any hfound
  refine ⟨s, ?_, by simpa using he⟩
  rw [← hs]
  refine Resolver.summarize_congr_effects fun other hother => ?_
  obtain ⟨node, n, hn, -, hcallee, -⟩ := hother
  have hentry := List.all_eq_true.1 hcalls _ (Table.mem_entries_iff.2 hn)
  obtain rfl : other = callee := by simpa [hcallee] using hentry
  rw [if_pos rfl]
  exact hview

/-- As long as nothing is known of `g`, the first argument of `f` crosses. -/
theorem exists_summary_alone {view : String → Option Summary} (hview : view "g" = none) :
    ∃ s, exchangeResolver.summarize view (exchanger "f" "g" [some "x", some "y"]) = .ok s ∧
      s.toEffect = exchangeEffect "f" true :=
  exists_summary_exchanger "g" (by decide +kernel) none (by decide +kernel) (by rw [hview])

/-- Then `f` has what `g` has. -/
theorem exists_summary_first (crossing : Bool) {view : String → Option Summary}
    (hview : (view "g").map Summary.toEffect = some (exchangeEffect "g" crossing)) :
    ∃ s, exchangeResolver.summarize view (exchanger "f" "g" [some "x", some "y"]) = .ok s ∧
      s.toEffect = exchangeEffect "f" crossing :=
  exists_summary_exchanger "g" (by decide +kernel)
    (some ⟨exchangeEffect "g" crossing, "g", "", ∅, none⟩)
    (by cases crossing <;> decide +kernel) hview

/-- And `g` has the opposite of what `f` has, since the label that arrives first is kept. -/
theorem exists_summary_second (crossing : Bool) {view : String → Option Summary}
    (hview : (view "f").map Summary.toEffect = some (exchangeEffect "f" crossing)) :
    ∃ s, exchangeResolver.summarize view (exchanger "g" "f" [some "y", some "x"]) = .ok s ∧
      s.toEffect = exchangeEffect "g" !crossing :=
  exists_summary_exchanger "f" (by decide +kernel)
    (some ⟨exchangeEffect "f" crossing, "f", "", ∅, none⟩)
    (by cases crossing <;> decide +kernel) hview

/-- The tables of the rounds: which argument of `f` crosses unknown code, and which one of `g`. -/
structure Exchanged (crossing : Bool) (table : NameMap Summary) : Prop where
  first : (table.get? "f").map Summary.toEffect = some (exchangeEffect "f" crossing)
  second : (table.get? "g").map Summary.toEffect = some (exchangeEffect "g" !crossing)
  known : ∀ id s, table.get? id = some s → s.unknown = false

theorem exchangeEffect_differs : ∀ crossing,
    (exchangeEffect "f" crossing).same (exchangeEffect "f" !crossing) = false ∧
      (exchangeEffect "g" !crossing).same (exchangeEffect "g" crossing) = false := by
  decide +kernel

/-- A round that gives `f` a new effect gives one to `g`, too. -/
theorem Exchanged.of_round {table : NameMap Summary} {crossing : Bool} {new : Summary}
    (hnew : exchangeResolver.summarize (Resolver.view ∅ table)
      (exchanger "f" "g" [some "x", some "y"]) = .ok new)
    (heffect : new.toEffect = exchangeEffect "f" crossing)
    (hfirst : ∀ old, table.get? "f" = some old → old.toEffect = exchangeEffect "f" !crossing)
    (hsecond : ∀ old, table.get? "g" = some old → old.toEffect = exchangeEffect "g" crossing)
    (hknown : ∀ id s, table.get? id = some s → s.unknown = false) :
    ∃ next, ["f", "g"].foldlM (exchangeResolver.refine ∅) (table, false) = .ok (next, true) ∧
      Exchanged crossing next := by
  obtain ⟨hdiffers, hdiffers'⟩ := exchangeEffect_differs crossing
  have hf : exchangeResolver.refine ∅ (table, false) "f" = .ok (table.set "f" new, true) := by
    refine Resolver.refine_of_differs rfl hnew fun old hold => ⟨hknown "f" old hold, ?_⟩
    rw [heffect, hfirst old hold]
    exact hdiffers
  have hview : (Resolver.view ∅ (table.set "f" new) "f").map Summary.toEffect =
      some (exchangeEffect "f" crossing) := by
    rw [Resolver.view, OrderedMap.get?_set_self, ← heffect]
    rfl
  obtain ⟨other, hother, heffect'⟩ := exists_summary_second crossing hview
  have hg : exchangeResolver.refine ∅ (table.set "f" new, true) "g" =
      .ok ((table.set "f" new).set "g" other, true) := by
    refine Resolver.refine_of_differs rfl hother fun old hold => ?_
    rw [OrderedMap.get?_set_ne _ _ (by decide)] at hold
    refine ⟨hknown "g" old hold, ?_⟩
    rw [heffect', hsecond old hold]
    exact hdiffers'
  refine ⟨(table.set "f" new).set "g" other, ?_, ?_, ?_, ?_⟩
  · rw [List.foldlM_cons, hf]
    simp only [bind, Except.bind, List.foldlM_cons, List.foldlM_nil, hg]
    rfl
  · rw [OrderedMap.get?_set_ne _ _ (by decide), OrderedMap.get?_set_self, Option.map_some, heffect]
  · rw [OrderedMap.get?_set_self, Option.map_some, heffect']
  · intro id s hs
    rw [OrderedMap.get?_set, OrderedMap.get?_set] at hs
    split at hs
    · cases hs
      rw [heffect']
      rfl
    · split at hs
      · cases hs
        rw [heffect]
        rfl
      · exact hknown id s hs

/-- A round turns the crossings of both functions over. -/
theorem Exchanged.round {crossing : Bool} {table : NameMap Summary} (h : Exchanged crossing table) :
    ∃ next, ["f", "g"].foldlM (exchangeResolver.refine ∅) (table, false) = .ok (next, true) ∧
      Exchanged (!crossing) next := by
  have heffect : ∀ {id : String} {effect : Effect} {old : Summary},
      (table.get? id).map Summary.toEffect = some effect → table.get? id = some old →
      old.toEffect = effect := by
    intro id effect old hid hold
    rw [hold, Option.map_some, Option.some.injEq] at hid
    exact hid
  have hview : (Resolver.view ∅ table "g").map Summary.toEffect =
      some (exchangeEffect "g" !crossing) := by
    rw [← h.second, Resolver.view, OrderedMap.get?_empty, Option.or_none]
  obtain ⟨new, hnew, hnewEffect⟩ := exists_summary_first (!crossing) hview
  refine Exchanged.of_round hnew hnewEffect (fun old hold => ?_) (fun old hold => ?_) h.known
  · rw [Bool.not_not]
    exact heffect h.first hold
  · exact heffect h.second hold

/-- **Two functions that never settle.**  No analysis uses up its visits, and yet each round takes a
crossing from both of them and gives them another one. -/
theorem not_converges_exchange :
    (∀ id f, exchange.functions.get? id = some f → f.isValid exchange.functionIds = true) ∧
      exchangeResolver.graph.layers = [[.ofList ["f", "g"]]] ∧
      exchangeResolver.graph.isRecursive (.ofList ["f", "g"]) = true ∧
      exchangeResolver.initial.summaries = ∅ ∧
      (∃ table changed, exchangeResolver.Unending ∅
        (exchangeResolver.membersOf (.ofList ["f", "g"])) table changed) ∧
      ¬ exchangeResolver.Converges ∅ (.ofList ["f", "g"]) := by
  have hrecursive : exchangeResolver.graph.isRecursive (.ofList ["f", "g"]) = true := by
    decide +kernel
  have hmembers : exchangeResolver.membersOf (.ofList ["f", "g"]) = ["f", "g"] := by decide +kernel
  have hrun : ∃ table, exchangeResolver.Unending ∅ ["f", "g"] table (fun _ => true) ∧
      ∀ n, table n = ∅ ∨ ∃ crossing, Exchanged crossing (table n) := by
    refine Resolver.exists_unending (fun _ table => table = ∅ ∨ ∃ crossing, Exchanged crossing table)
      _ (Or.inl rfl) ?_ ?_
    · rintro n table (rfl | ⟨crossing, h⟩)
      · have hnone : Resolver.view ∅ ∅ "g" = none := rfl
        obtain ⟨new, hnew, heffect⟩ := exists_summary_alone hnone
        obtain ⟨next, hround, hnext⟩ := Exchanged.of_round hnew heffect
          (fun old hold => by cases hold) (fun old hold => by cases hold) (fun id s hs => by cases hs)
        exact ⟨next, hround, Or.inr ⟨true, hnext⟩⟩
      · obtain ⟨next, hround, hnext⟩ := h.round
        exact ⟨next, hround, Or.inr ⟨!crossing, hnext⟩⟩
    · rintro n table (rfl | ⟨crossing, h⟩) id s hs
      · cases hs
      · exact h.known id s hs
  obtain ⟨table, htable, -⟩ := hrun
  rw [← hmembers] at htable
  refine ⟨?_, by decide +kernel, hrecursive, rfl, ⟨table, _, htable⟩, ?_⟩
  · intro id f hf
    have hall : exchange.functions.entries.all (fun entry =>
        entry.2.isValid exchange.functionIds) = true := by decide +kernel
    exact List.all_eq_true.1 hall _ (Table.mem_entries_iff.2 hf)
  · rw [htable.converges_iff (Program.wellKeyed_of_all (by decide +kernel)) ?_ hrecursive]
    · rintro ⟨n, hn⟩
      cases hn
    · intro id hid
      obtain ⟨f, hf, -⟩ := Resolver.mem_validFunctions_iff.1 (Resolver.mem_membersOf_iff.1 hid).2
      exact ⟨f, hf⟩

end TaintFlow
