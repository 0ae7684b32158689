import TaintFlow.Proofs.Program.Identity
import TaintFlow.Proofs.Summary.Across
import TaintFlow.Proofs.Summary.Failures

/-!
# Resolving an edited program

A program is resolved with the summaries that an earlier resolution of another program, from nothing,
published.  A function is reused exactly when everything that can be reached from it is as it was and was
known (`Rerun.recorded_of_stage`).  All of that stood in the same components in the earlier program, so a reused
summary is the one that summarising would give again, as long as the programs agree on the globals
(`Rerun.same_of_stage`, `resolve_incremental`).
-/

namespace TaintFlow

/-! ### Results of a list -/

namespace Result

variable {α β γ δ : Type}

/-- The second result is the same fault where the first one is a fault, and related to it otherwise. -/
def Related (R : α → β → Prop) (x : Result α) (y : Result β) : Prop :=
  (∀ fault, x = .error fault → y = .error fault) ∧ ∀ a, x = .ok a → ∃ b, y = .ok b ∧ R a b

theorem related_ok {R : α → β → Prop} {a : α} {b : β} (h : R a b) :
    Result.Related R (.ok a) (.ok b) :=
  ⟨nofun, fun _ ha => ⟨b, rfl, Except.ok.inj ha ▸ h⟩⟩

theorem related_error (R : α → β → Prop) (fault : Fault) :
    Result.Related R (.error fault) (.error fault) :=
  ⟨fun _ he => by rw [Except.error.inj he], nofun⟩

theorem related_of_eq {R : α → α → Prop} (hrefl : ∀ a, R a a) {x y : Result α} (h : y = x) :
    x.Related R y := by
  subst h
  exact ⟨fun _ he => he, fun a ha => ⟨a, ha, hrefl a⟩⟩

theorem Related.bind {R : α → β → Prop} {S : γ → δ → Prop} {x : Result α} {y : Result β}
    {f : α → Result γ} {g : β → Result δ} (h : x.Related R y)
    (hnext : ∀ a b, x = .ok a → y = .ok b → R a b → (f a).Related S (g b)) :
    Result.Related S (x >>= f) (y >>= g) := by
  cases hx : x with
  | error fault =>
    rw [h.1 fault hx]
    exact related_error S fault
  | ok a =>
    obtain ⟨b, hb, hab⟩ := h.2 a hx
    rw [hb]
    exact hnext a b hx hb hab

/-- Leaving out elements that do not fail does not change how going through a list ends. -/
theorem related_mapM_filter {f : α → Result β} {g : α → Result γ} {keep : α → Bool} {l : List α}
    (hdrop : ∀ a ∈ l, keep a = false → ∃ b, f a = .ok b)
    (hkeep : ∀ a ∈ l, keep a = true → (f a).Related (fun _ _ => True) (g a)) :
    Result.Related (fun _ _ => True) (l.mapM f) ((l.filter keep).mapM g) := by
  induction l with
  | nil => exact related_ok trivial
  | cons a rest ih =>
    have hrest := ih (fun b hb => hdrop b (List.mem_cons_of_mem a hb))
      fun b hb => hkeep b (List.mem_cons_of_mem a hb)
    rw [List.mapM_cons, List.filter_cons]
    cases ha : keep a with
    | true =>
      rw [if_pos rfl, List.mapM_cons]
      exact (hkeep a List.mem_cons_self ha).bind fun _ _ _ _ _ => hrest.bind fun _ _ _ _ _ =>
        related_ok trivial
    | false =>
      obtain ⟨b, hb⟩ := hdrop a List.mem_cons_self ha
      rw [hb, if_neg Bool.false_ne_true, ← bind_pure ((rest.filter keep).mapM g)]
      exact hrest.bind fun _ _ _ _ _ => related_ok trivial

end Result

namespace CallGraph

variable {p : Program} {v w : String}

theorem edge_iff_calls (hkeyed : p.WellKeyed) : (ofProgram p).callees.Edge v w ↔
    ∃ f, p.functions.get? v = some f ∧ f.Calls p.functionIds w := by
  constructor
  · intro h
    obtain ⟨id, f, hf, rfl, node, n, hn, hkind, hcallee, hknown, hdynamic⟩ :=
      edge_ofProgram_iff.1 h
    rw [← hkeyed id f hf] at hf
    exact ⟨f, hf, node, n, hn, hkind, hcallee, hknown, hdynamic⟩
  · rintro ⟨f, hf, hcalls⟩
    exact edge_of_calls hkeyed hf hcalls

theorem mem_functionIds_of_reaches (hv : v ∈ p.functionIds)
    (h : (ofProgram p).callees.Reaches v w) : w ∈ p.functionIds := by
  cases h with
  | refl => exact hv
  | tail _ hedge =>
    obtain ⟨-, -, -, -, -, -, -, -, -, hknown, -⟩ := edge_ofProgram_iff.1 hedge
    exact hknown

theorem isRecursive_congr {g g' : CallGraph} {c : Names}
    (h : ∀ id ∈ c, g'.callees.Edge id id ↔ g.callees.Edge id id) :
    g'.isRecursive c = g.isRecursive c := by
  unfold isRecursive
  split
  · next id hc => exact decide_eq_decide.2 (h id (OrderedSet.mem_def.2 (hc ▸ List.mem_singleton_self id)))
  · rfl

end CallGraph

namespace Resolver

/-- The second program is resolved with what a resolution of the first one from nothing published. -/
structure Rerun (p p' : Program) (rules : Registry) (limits : ResolveLimits)
    (previous : NameMap Summary) : Prop where
  keyed : p.WellKeyed
  keyed' : p'.WellKeyed
  /-- No id of the first program is both read and refused. -/
  readOnce : ∀ id f, p.functions.get? id = some f → p.malformed.get? id = none
  valid : ∀ id f, p'.functions.get? id = some f → f.isValid p'.functionIds = true
  read : ∀ id, p'.malformed.get? id = none
  /-- A function that has kept its hash has kept its document. -/
  hashes : ∀ id f g, p.functions.get? id = some f → p'.functions.get? id = some g →
    f.contentHash = g.contentHash → f.toDocument.normal = g.toDocument.normal
  resolved : ∃ allowance res left, (ofProgram p rules limits ∅).resolve allowance = .ok (res, left) ∧
    res.summaries = previous

/-- The function is as it was, and what was published for it is known. -/
def Kept (p p' : Program) (previous : NameMap Summary) (id : String) : Prop :=
  ∃ f g s, p.functions.get? id = some f ∧ p'.functions.get? id = some g ∧ f.core = g.core ∧
    f.contentHash = g.contentHash ∧ previous.get? id = some s ∧ s.unknown = false

/-- Everything that can be reached from the function is kept. -/
def Stays (p p' : Program) (previous : NameMap Summary) (id : String) : Prop :=
  ∀ w, (CallGraph.ofProgram p').callees.Reaches id w → Kept p p' previous w

/-- The function mentions the same globals of both programs. -/
def Neutral (p p' : Program) (id : String) : Prop :=
  ∀ g, p'.functions.get? id = some g → g.globalsIn p'.globals = g.globalsIn p.globals

namespace Rerun

variable {p p' : Program} {rules : Registry} {limits : ResolveLimits} {previous : NameMap Summary}
  {earlier : NameMap Summary} {res : Resolution} {c : Names} {layer : List Names} {id w : String}

/-! ### Functions -/

theorem mem_valid (h : Rerun p p' rules limits previous) (hid : id ∈ p'.functionIds) :
    id ∈ validFunctions p' := by
  rcases mem_functionIds_iff.1 hid with ⟨f, hf⟩ | ⟨what, hwhat⟩
  · exact mem_validFunctions_iff.2 ⟨f, hf, Option.isNone_iff_eq_none.1 (h.valid id f hf)⟩
  · cases (h.read id).symm.trans hwhat

theorem not_unfit (h : Rerun p p' rules limits previous) :
    ¬ (ofProgram p' rules limits earlier).Unfit id := by
  rintro (⟨what, hwhat⟩ | ⟨f, hf, hdefect⟩)
  · cases (h.read id).symm.trans hwhat
  · exact hdefect (Option.isNone_iff_eq_none.1 (h.valid id f hf))

theorem summaryOf (h : Rerun p p' rules limits previous) {s : Summary}
    (hs : previous.get? id = some s) (hknown : s.unknown = false) :
    id ∈ validFunctions p ∧
      ∃ f, p.functions.get? id = some f ∧ (ofProgram p rules limits ∅).SummaryOf f s := by
  obtain ⟨allowance, res, left, hres, rfl⟩ := h.resolved
  exact summaryOf_of_resolve h.keyed hres hs hknown

theorem not_unfit_of_kept (h : Rerun p p' rules limits previous) (hkept : Kept p p' previous id) :
    id ∈ validFunctions p ∧ ¬ (ofProgram p rules limits ∅).Unfit id := by
  obtain ⟨f, -, s, hf, -, -, -, hs, hknown⟩ := hkept
  have hv := (h.summaryOf hs hknown).1
  exact ⟨hv, not_unfit_of_mem_validFunctions (fun f hf => h.readOnce id f hf) hv⟩

theorem kept_of_canReuse (h : Rerun p p' rules limits previous)
    (hreuse : (ofProgram p' rules limits previous).canReuse res c id = true) :
    Kept p p' previous id := by
  obtain ⟨g, s, hg, hs, hknown, hhash, -⟩ := canReuse_iff.1 hreuse
  obtain ⟨-, f, hf, hsummary⟩ := h.summaryOf hs hknown
  have hsame : f.contentHash = g.contentHash := hsummary.contentHash.symm.trans hhash
  exact ⟨f, g, s, hf, hg, Function.core_eq_of_toDocument (h.hashes id f g hf hg hsame), hsame, hs,
    hknown⟩

/-- A function that is kept and mentions the same globals is alike in both programs. -/
theorem alike (h : Rerun p p' rules limits previous) (earlier : NameMap Summary) (hkept : Kept p p' previous id)
    (hneutral : Neutral p p' id) : ∃ f g, p.functions.get? id = some f ∧
      p'.functions.get? id = some g ∧
      (ofProgram p rules limits ∅).Alike (ofProgram p' rules limits earlier) f g := by
  obtain ⟨hv, -⟩ := h.not_unfit_of_kept hkept
  obtain ⟨f, g, s, hf, hg, hcore, hhash, -⟩ := hkept
  obtain ⟨f', hf', hdefect⟩ := mem_validFunctions_iff.1 hv
  obtain rfl : f = f' := Option.some.inj (hf.symm.trans hf')
  refine ⟨f, g, hf, hg, hcore, hhash, ?_, Function.callsKnown_of_defect? hdefect,
    Function.callsKnown_of_defect? (Option.isNone_iff_eq_none.1 (h.valid id g hg))⟩
  have hmentioned : ∀ globals, f.globalsIn globals = g.globalsIn globals := by
    intro globals
    rw [← Function.globalsIn_core, hcore, Function.globalsIn_core]
  show f.globalsIn p'.globals = f.globalsIn p.globals
  rw [hmentioned, hmentioned, hneutral g hg]

/-- What was published for a function that is kept writes globals that it mentions. -/
theorem sameGlobals (h : Rerun p p' rules limits previous) (hkept : Kept p p' previous id)
    (hneutral : Neutral p p' id) {s : Summary} (hs : previous.get? id = some s) :
    s.SameGlobals p.globals p'.globals := by
  obtain ⟨f, g, hf, -, halike⟩ := h.alike ∅ hkept hneutral
  obtain ⟨-, -, t, -, -, -, -, ht, hknown⟩ := hkept
  obtain rfl : s = t := Option.some.inj (hs.symm.trans ht)
  obtain ⟨-, f', hf', hsummary⟩ := h.summaryOf hs hknown
  obtain rfl : f = f' := Option.some.inj (hf.symm.trans hf')
  rcases hsummary with ⟨view, hsummary⟩ | ⟨error, rfl⟩
  · exact sameGlobals_of_summarize hsummary halike.globals
  · exact fun output houtput => absurd houtput List.not_mem_nil

theorem edge_iff (h : Rerun p p' rules limits previous) (hkept : Kept p p' previous id) :
    (CallGraph.ofProgram p).callees.Edge id w ↔ (CallGraph.ofProgram p').callees.Edge id w := by
  obtain ⟨hv, -⟩ := h.not_unfit_of_kept hkept
  obtain ⟨f, g, s, hf, hg, hcore, -⟩ := hkept
  obtain ⟨f', hf', hdefect⟩ := mem_validFunctions_iff.1 hv
  obtain rfl : f = f' := Option.some.inj (hf.symm.trans hf')
  have hknown := Function.callsKnown_of_defect? hdefect
  have hknown' := Function.callsKnown_of_defect? (Option.isNone_iff_eq_none.1 (h.valid id g hg))
  rw [CallGraph.edge_iff_calls h.keyed, CallGraph.edge_iff_calls h.keyed']
  constructor
  · rintro ⟨f', hf', hcalls⟩
    obtain rfl : f = f' := Option.some.inj (hf.symm.trans hf')
    exact ⟨g, hg, Function.calls_of_core hcore hknown' hcalls⟩
  · rintro ⟨g', hg', hcalls⟩
    obtain rfl : g = g' := Option.some.inj (hg.symm.trans hg')
    exact ⟨f, hf, Function.calls_of_core hcore.symm hknown hcalls⟩

/-! ### Components -/

theorem stays_of_component (hkept : ∀ id ∈ c, Kept p p' previous id)
    (hbelow : ∀ id ∈ c, ∀ callee, (CallGraph.ofProgram p').callees.Edge id callee → callee ∉ c →
      Stays p p' previous callee) (hid : id ∈ c) : Stays p p' previous id := by
  intro w hw
  induction hw using Relation.ReflTransGen.head_induction_on with
  | refl => exact hkept w hid
  | @head x y hedge hyw ih =>
    by_cases hy : y ∈ c
    · exact ih hy
    · exact hbelow x hid y hedge hy w hyw

theorem reaches_iff (h : Rerun p p' rules limits previous) (hstays : Stays p p' previous id) :
    (CallGraph.ofProgram p).callees.Reaches id w ↔ (CallGraph.ofProgram p').callees.Reaches id w :=
  Graph.reaches_congr fun x hx _ => h.edge_iff (hstays x hx)

/-- **A component that stays was a component before.** -/
theorem exists_layer (h : Rerun p p' rules limits previous)
    (hlayer : layer ∈ (CallGraph.ofProgram p').layers) (hc : c ∈ layer) (hid : id ∈ c)
    (hstays : Stays p p' previous id) : ∃ old ∈ (CallGraph.ofProgram p).layers, c ∈ old := by
  obtain ⟨f, -, -, hf, -⟩ := hstays id .refl
  have hknown : id ∈ p.functionIds := mem_functionIds_iff.2 (Or.inl ⟨f, hf⟩)
  obtain ⟨old, hold, d, hd, hidd⟩ := exists_component hknown
  have hsame : d = c := by
    refine OrderedSet.eq_of_mem_iff fun w => ?_
    rw [CallGraph.mem_iff_mutual_of_layer _ rfl hold hd hidd,
      CallGraph.mem_iff_mutual_of_layer _ rfl hlayer hc hid]
    constructor
    · rintro ⟨hto, hback⟩
      have hto' := (h.reaches_iff hstays).1 hto
      exact ⟨hto', (h.reaches_iff fun x hx => hstays x (hto'.trans hx)).1 hback⟩
    · rintro ⟨hto, hback⟩
      exact ⟨(h.reaches_iff hstays).2 hto, (h.reaches_iff fun x hx => hstays x (hto.trans hx)).2 hback⟩
  exact ⟨old, hold, hsame ▸ hd⟩

theorem stays_of_mem (hlayer : layer ∈ (CallGraph.ofProgram p').layers) (hc : c ∈ layer) (hid : id ∈ c)
    (hstays : Stays p p' previous id) : ∀ w ∈ c, Stays p p' previous w := by
  intro w hw x hx
  exact hstays x (((CallGraph.mem_iff_mutual_of_layer _ rfl hlayer hc hid).1 hw).1.trans hx)

theorem membersOf_eq {r : Resolver} (hvalid : ∀ id ∈ c, id ∈ r.valid) : r.membersOf c = c.toList :=
  List.filter_eq_self.2 fun id hid => decide_eq_true (hvalid id hid)

/-- How the first program came to the summaries of a component that stays. -/
theorem exists_earlier (h : Rerun p p' rules limits previous)
    (hlayer : layer ∈ (CallGraph.ofProgram p').layers) (hc : c ∈ layer)
    (hstays : ∀ id ∈ c, Stays p p' previous id) (hid : id ∈ c) : ∃ table results,
      (ofProgram p rules limits ∅).summarizeComponent table c = .ok results ∧
        (ofProgram p rules limits ∅).ResultsOf c results ∧ (∀ id ∈ c, table.get? id = none) ∧
        (∀ id ∈ c, ∀ callee, (CallGraph.ofProgram p').callees.Edge id callee → callee ∉ c →
          table.get? callee = previous.get? callee) ∧
        ∀ s ∈ results, previous.get? s.function = some s := by
  obtain ⟨old, hold, hc'⟩ := h.exists_layer hlayer hc hid (hstays id hid)
  obtain ⟨allowance, res, left, hres, hprevious⟩ := h.resolved
  rcases (stage_of_resolve h.keyed hres).settled old hold c hc' with
    ⟨hinherited, -⟩ | ⟨-, table, hown, hbelow, results, hcomponent, hspec, hpublished, -⟩
  · exact absurd hinherited (not_inherited rfl)
  · have hmember : id ∈ (ofProgram p rules limits ∅).membersOf c :=
      mem_membersOf_iff.2 ⟨hid, (h.not_unfit_of_kept (hstays id hid id .refl)).1⟩
    refine ⟨table, results, hcomponent id hmember, hspec, fun id hid => ?_,
      fun id hid callee hedge hout => ?_, fun s hs => hprevious ▸ (hpublished s hs).summary⟩
    · rw [hown id hid]
      exact (initial_of_fit (h.not_unfit_of_kept (hstays id hid id .refl)).2).1
    · rw [hbelow id hid callee ((h.edge_iff (hstays id hid id .refl)).2 hedge) hout, hprevious]

/-- Whatever is known of earlier summaries, a component is summarised from the same table alike. -/
theorem summarizeComponent_eq_scratch (h : Rerun p p' rules limits previous)
    (earlier : NameMap Summary) (hmember : ∀ id ∈ c, id ∈ p'.functionIds) {table table' : NameMap Summary}
    (hcallees : ∀ id ∈ c, ∀ callee, (CallGraph.ofProgram p').callees.Edge id callee →
      table'.get? callee = table.get? callee) :
    (ofProgram p' rules limits earlier).summarizeComponent table' c =
      (ofProgram p' rules limits ∅).summarizeComponent table c := by
  have hrules : (ofProgram p' rules limits ∅).rules = (ofProgram p' rules limits earlier).rules := rfl
  refine summarizeComponent_across hrules rfl rfl rfl fun id hid => ?_
  have hidc := (mem_membersOf_iff.1 hid).1
  obtain ⟨g, hg, hdefect⟩ := mem_validFunctions_iff.1 (h.mem_valid (hmember id hidc))
  have hknown := Function.callsKnown_of_defect? hdefect
  refine ⟨g, g, hg, hg, ⟨rfl, rfl, rfl, hknown, hknown⟩, fun callee hcalls => ⟨?_, ?_⟩⟩
  · exact hcallees id hidc callee (CallGraph.edge_of_calls h.keyed' hg hcalls)
  · exact fun s _ => s.sameGlobals_refl _

/-- **A component that stays is summarised as before**, from what was published before for the functions
that it calls. -/
theorem summarizeComponent_eq_earlier (h : Rerun p p' rules limits previous)
    (earlier : NameMap Summary) (hlayer : layer ∈ (CallGraph.ofProgram p').layers) (hc : c ∈ layer)
    (hstays : ∀ id ∈ c, Stays p p' previous id)
    (hneutral : ∀ id ∈ c, ∀ w, (CallGraph.ofProgram p').callees.Reaches id w → Neutral p p' w)
    (hid : id ∈ c) {table : NameMap Summary} (hown : ∀ id ∈ c, table.get? id = none)
    (hbelow : ∀ id ∈ c, ∀ callee, (CallGraph.ofProgram p').callees.Edge id callee → callee ∉ c →
      table.get? callee = previous.get? callee) :
    ∃ results, (ofProgram p' rules limits earlier).summarizeComponent table c = .ok results ∧
      ∀ s ∈ results, previous.get? s.function = some s := by
  obtain ⟨table', results, hcomponent, hspec, hown', hbelow', hprevious⟩ :=
    h.exists_earlier hlayer hc hstays hid
  have hkept : ∀ id ∈ c, Kept p p' previous id := fun id hid => hstays id hid id .refl
  have hvalid : ∀ id ∈ c, id ∈ (ofProgram p rules limits ∅).valid := fun id hid =>
    (h.not_unfit_of_kept (hkept id hid)).1
  have hvalid' : ∀ id ∈ c, id ∈ (ofProgram p' rules limits earlier).valid := by
    intro id hid
    obtain ⟨-, g, -, -, hg, -⟩ := hkept id hid
    exact mem_validFunctions_iff.2 ⟨g, hg, Option.isNone_iff_eq_none.1 (h.valid id g hg)⟩
  have hrules : (ofProgram p rules limits ∅).rules = (ofProgram p' rules limits earlier).rules := rfl
  refine ⟨results, ?_, hprevious⟩
  rw [← hcomponent]
  refine summarizeComponent_across hrules rfl ?_ ?_ fun id hid => ?_
  · rw [membersOf_eq hvalid, membersOf_eq hvalid']
  · exact CallGraph.isRecursive_congr fun id hid => (h.edge_iff (hkept id hid)).symm
  · have hid := (mem_membersOf_iff.1 hid).1
    obtain ⟨f, g, hf, hg, halike⟩ := h.alike earlier (hkept id hid) (hneutral id hid id .refl)
    refine ⟨f, g, hf, hg, halike, fun callee hcalls => ?_⟩
    have hedge : (CallGraph.ofProgram p').callees.Edge id callee :=
      (h.edge_iff (hkept id hid)).1 ((CallGraph.edge_iff_calls h.keyed).2 ⟨f, hf, hcalls⟩)
    by_cases hin : callee ∈ c
    · rw [hown callee hin, hown' callee hin]
      exact ⟨rfl, fun s hs => by cases hs⟩
    · rw [hbelow id hid callee hedge hin, hbelow' id hid callee hedge hin]
      refine ⟨rfl, fun s hs => ?_⟩
      exact h.sameGlobals (hstays id hid callee (.single hedge))
        (hneutral id hid callee (.single hedge)) hs

/-! ### What is reused -/

/-- A component is taken over exactly when its members stay, as soon as it is known of the functions below
which of them stay. -/
theorem takesOver_iff_stays (h : Rerun p p' rules limits previous)
    (hbelow : ∀ id ∈ c, ∀ callee, (CallGraph.ofProgram p').callees.Edge id callee → callee ∉ c →
      (callee ∈ res.recomputed ↔ ¬ Stays p p' previous callee)) :
    (ofProgram p' rules limits previous).takesOver res c = true ↔
      ∀ id ∈ c, Stays p p' previous id := by
  rw [takesOver_iff]
  constructor
  · intro htake id hid
    refine stays_of_component (fun v hv => h.kept_of_canReuse (htake v hv)) ?_ hid
    intro v hv callee hedge hout
    obtain ⟨-, -, -, -, -, -, hcallees⟩ := canReuse_iff.1 (htake v hv)
    by_contra hnot
    exact (hcallees callee hedge).elim hout fun hsame => hsame ((hbelow v hv callee hedge hout).2 hnot)
  · intro hstays id hid
    obtain ⟨f, g, s, hf, hg, -, hhash, hs, hknown⟩ := hstays id hid id .refl
    obtain ⟨-, f', hf', hsummary⟩ := h.summaryOf hs hknown
    obtain rfl : f = f' := Option.some.inj (hf.symm.trans hf')
    refine canReuse_iff.2 ⟨g, s, hg, hs, hknown, hsummary.contentHash.trans hhash, ?_⟩
    intro callee hedge
    refine or_iff_not_imp_left.2 fun hout hmem => (hbelow id hid callee hedge hout).1 hmem ?_
    exact fun w hw => hstays id hid w (.head hedge hw)

/-- How a resolution records whether a function stays. -/
structure Recorded (p p' : Program) (previous : NameMap Summary) (res : Resolution) (id : String) :
    Prop where
  recomputed : id ∈ res.recomputed ↔ ¬ Stays p p' previous id
  reused : id ∈ res.reused ↔ Stays p p' previous id
  summary : Stays p p' previous id → res.summaries.get? id = previous.get? id

theorem mem_functionIds_of_mem (hlayer : layer ∈ (CallGraph.ofProgram p').layers) (hc : c ∈ layer)
    (hid : id ∈ c) (hknown : id ∈ p'.functionIds) : ∀ w ∈ c, w ∈ p'.functionIds := fun _ hw =>
  CallGraph.mem_functionIds_of_reaches hknown
    ((CallGraph.mem_iff_mutual_of_layer _ rfl hlayer hc hid).1 hw).1

/-- **The functions that are reused are those that stay**, and each one keeps its earlier summary. -/
theorem recorded_of_stage (h : Rerun p p' rules limits previous) {done rest : List (List Names)}
    (hsplit : (CallGraph.ofProgram p').layers = done ++ rest)
    (hstage : (ofProgram p' rules limits previous).Stage done res) :
    ∀ layer ∈ done, ∀ c ∈ layer, ∀ id ∈ c, id ∈ p'.functionIds → Recorded p p' previous res id := by
  have hlayered := CallGraph.layered_layers (CallGraph.ofProgram p') rfl
  refine hlayered.induction hsplit (P := fun id => id ∈ p'.functionIds → Recorded p p' previous res id) ?_
  intro layer hlayer c hc hbelow id hid hknown
  have hlayer' : layer ∈ (CallGraph.ofProgram p').layers := hsplit ▸ List.mem_append_left rest hlayer
  have hmember := mem_functionIds_of_mem hlayer' hc hid hknown
  have htake := h.takesOver_iff_stays fun v hv callee hedge hout =>
    ((hbelow v hv callee hedge hout).2
      (CallGraph.mem_functionIds_of_reaches (hmember v hv) (.single hedge))).recomputed
  have hfit : ¬ (ofProgram p' rules limits previous).Unfit id := h.not_unfit
  obtain ⟨-, hnot, hnot'⟩ := initial_of_fit hfit
  rcases hstage.settled layer hlayer c hc with
    ⟨hinherited, hinherits⟩ | ⟨hleft, table, -, -, results, -, hspec, hpublished, -⟩
  · have hstays := htake.1 hinherited.2 id hid
    have hin := hinherits id hid
    exact ⟨iff_of_false (fun hmem => hnot (hin.recomputed.1 hmem)) (not_not_intro hstays),
      iff_of_true hin.reused hstays, fun _ => hin.summary⟩
  · have hstays : ¬ Stays p p' previous id := fun hstays =>
      hleft ⟨⟨id, hid, h.mem_valid hknown⟩, htake.2 (stays_of_mem hlayer' hc hid hstays)⟩
    obtain ⟨s, hs, rfl⟩ := hspec.complete id (mem_membersOf_iff.2 ⟨hid, h.mem_valid hknown⟩)
    have hp := hpublished s hs
    exact ⟨iff_of_true hp.recomputed hstays,
      iff_of_false (fun hmem => hnot' (hp.reused.1 hmem)) hstays, fun hs => absurd hs hstays⟩

/-! ### What is published -/

/-- **A function gets the summary that it gets from nothing**, if everything that can be reached from it
mentions the same globals of both programs. -/
theorem same_of_stage (h : Rerun p p' rules limits previous) {done rest : List (List Names)}
    (hsplit : (CallGraph.ofProgram p').layers = done ++ rest) {scratch : Resolution}
    (hscratch : (ofProgram p' rules limits ∅).Stage done scratch)
    (hstage : (ofProgram p' rules limits previous).Stage done res) :
    ∀ layer ∈ done, ∀ c ∈ layer, ∀ id ∈ c, id ∈ p'.functionIds →
      (∀ w, (CallGraph.ofProgram p').callees.Reaches id w → Neutral p p' w) →
        res.summaries.get? id = scratch.summaries.get? id := by
  have hlayered := CallGraph.layered_layers (CallGraph.ofProgram p') rfl
  have hrecorded := h.recorded_of_stage hsplit hstage
  refine hlayered.induction hsplit (P := fun id => id ∈ p'.functionIds →
    (∀ w, (CallGraph.ofProgram p').callees.Reaches id w → Neutral p p' w) →
      res.summaries.get? id = scratch.summaries.get? id) ?_
  intro layer hlayer c hc hbelow id hid hknown hneutral
  have hlayer' : layer ∈ (CallGraph.ofProgram p').layers := hsplit ▸ List.mem_append_left rest hlayer
  have hmember := mem_functionIds_of_mem hlayer' hc hid hknown
  have hneutral' : ∀ v ∈ c, ∀ w, (CallGraph.ofProgram p').callees.Reaches v w → Neutral p p' w :=
    fun v hv w hw => hneutral w
      (((CallGraph.mem_iff_mutual_of_layer _ rfl hlayer' hc hid).1 hv).1.trans hw)
  have hcallees : ∀ v ∈ c, ∀ callee, (CallGraph.ofProgram p').callees.Edge v callee → callee ∉ c →
      res.summaries.get? callee = scratch.summaries.get? callee := fun v hv callee hedge hout =>
    (hbelow v hv callee hedge hout).2
      (CallGraph.mem_functionIds_of_reaches (hmember v hv) (.single hedge))
      fun w hw => hneutral' v hv w (.head hedge hw)
  rcases hscratch.settled layer hlayer c hc with
    ⟨hinherited, -⟩ | ⟨-, table, hown, hlower, results, hcomponent, hspec, hpublished, -⟩
  · exact absurd hinherited (not_inherited rfl)
  have hnone : ∀ v ∈ c, table.get? v = none := fun v hv =>
    (hown v hv).trans (initial_of_fit (h.not_unfit)).1
  have hin : id ∈ (ofProgram p' rules limits ∅).membersOf c :=
    mem_membersOf_iff.2 ⟨hid, h.mem_valid hknown⟩
  obtain ⟨s, hs, rfl⟩ := hspec.complete id hin
  rw [(hpublished s hs).summary]
  rcases hstage.settled layer hlayer c hc with
    ⟨-, hinherits⟩ | ⟨-, table', hown', hlower', results', hcomponent', -, hpublished', -⟩
  · -- taken over: summarising the component again would give the earlier summaries
    have hstays : ∀ v ∈ c, Stays p p' previous v := fun v hv =>
      (hrecorded layer hlayer c hc v hv (hmember v hv)).reused.1 (hinherits v hv).reused
    obtain ⟨again, hagain, hprevious⟩ := h.summarizeComponent_eq_earlier ∅ hlayer' hc hstays
      hneutral' hid hnone fun v hv callee hedge hout => by
        obtain ⟨⟨lower, hl, d, hd, hin⟩, -⟩ := hbelow v hv callee hedge hout
        rw [hlower v hv callee hedge hout, ← hcallees v hv callee hedge hout]
        exact (hrecorded lower hl d hd callee hin
          (CallGraph.mem_functionIds_of_reaches (hmember v hv) (.single hedge))).summary
            fun w hw => hstays v hv w (.head hedge hw)
    obtain rfl : results = again := Except.ok.inj ((hcomponent _ hin).symm.trans hagain)
    exact (hinherits s.function hid).summary.trans (hprevious s hs)
  · have hsame : (ofProgram p' rules limits previous).summarizeComponent table' c =
        (ofProgram p' rules limits ∅).summarizeComponent table c :=
      h.summarizeComponent_eq_scratch previous hmember fun v hv callee hedge => by
        by_cases hin : callee ∈ c
        · rw [hnone callee hin, hown' callee hin]
          exact (initial_of_fit (h.not_unfit)).1
        · rw [hlower v hv callee hedge hin, hlower' v hv callee hedge hin]
          exact hcallees v hv callee hedge hin
    rw [hcomponent _ hin, hcomponent' _ hin] at hsame
    cases hsame
    exact (hpublished' s hs).summary

/-! ### How it ends -/

theorem unpublished (h : Rerun p p' rules limits previous) {done rest : List (List Names)}
    (hsplit : (CallGraph.ofProgram p').layers = done ++ layer :: rest)
    (hstage : (ofProgram p' rules limits earlier).Stage done res) (hc : c ∈ layer) (hid : id ∈ c) :
    res.summaries.get? id = none := by
  have hlayered := CallGraph.layered_layers (CallGraph.ofProgram p') rfl
  have hwaiting := hstage.waiting id fun lower hl d hd hin =>
    hlayered.fresh done layer rest hsplit c hc id hid lower hl d hd hin
  exact hwaiting.summary.trans (initial_of_fit h.not_unfit).1

/-- **One layer ends as it does from nothing.**  What is taken over would not have failed, and what is left
is summarised from the same table. -/
theorem related_resolveLayer (h : Rerun p p' rules limits previous)
    (hneutral : ∀ w, Neutral p p' w) {done rest : List (List Names)}
    (hsplit : (CallGraph.ofProgram p').layers = done ++ layer :: rest) {scratch : Resolution}
    (hscratch : (ofProgram p' rules limits ∅).Stage done scratch)
    (hstage : (ofProgram p' rules limits previous).Stage done res) :
    ((ofProgram p' rules limits ∅).resolveLayer scratch layer).Related (fun _ _ => True)
      ((ofProgram p' rules limits previous).resolveLayer res layer) := by
  have hlayered := CallGraph.layered_layers (CallGraph.ofProgram p') rfl
  have hlayer : layer ∈ (CallGraph.ofProgram p').layers := by
    rw [hsplit]
    simp
  have hmember : ∀ c ∈ (ofProgram p' rules limits ∅).pendingOf layer, c ∈ layer ∧ (∃ id, id ∈ c) ∧
      ∀ v ∈ c, v ∈ p'.functionIds := by
    intro c hc
    obtain ⟨hc, id, hid, hvalid⟩ := mem_pendingOf_iff.1 hc
    refine ⟨hc, ⟨id, hid⟩, mem_functionIds_of_mem hlayer hc hid ?_⟩
    exact mem_functionIds_iff.2 (Or.inl (exists_function_of_mem_valid hvalid))
  -- what is called outside a component of the layer was settled before
  have hbelow : ∀ c ∈ (ofProgram p' rules limits ∅).pendingOf layer, ∀ v ∈ c, ∀ callee,
      (CallGraph.ofProgram p').callees.Edge v callee → callee ∉ c →
        Recorded p p' previous res callee ∧
          res.summaries.get? callee = scratch.summaries.get? callee ∧ ∀ d ∈ layer, callee ∉ d := by
    intro c hc v hv callee hedge hout
    obtain ⟨hc, -, hknown⟩ := hmember c hc
    have hcallee := CallGraph.mem_functionIds_of_reaches (hknown v hv) (.single hedge)
    obtain ⟨lower, hl, d, hd, hin⟩ :=
      (hlayered.lower done layer rest hsplit c hc v hv callee hedge).resolve_left hout
    refine ⟨h.recorded_of_stage hsplit hstage lower hl d hd callee hin hcallee,
      h.same_of_stage hsplit hscratch hstage lower hl d hd callee hin hcallee fun w _ => hneutral w, ?_⟩
    exact fun e he hine => hlayered.fresh done layer rest hsplit e he callee hine lower hl d hd hin
  obtain ⟨hleft, hbase⟩ :=
    leftOf_of_previous_eq_empty (r := ofProgram p' rules limits ∅) rfl scratch layer
  rw [resolveLayer_eq, resolveLayer_eq, hbase, hleft]
  refine (Result.related_mapM_filter (fun c hc htake => ?_) fun c hc htake => ?_).bind
    fun _ _ _ _ _ => Result.related_ok trivial
  · obtain ⟨hcl, ⟨id, hid⟩, hknown⟩ := hmember c hc
    have hstays := (h.takesOver_iff_stays fun v hv callee hedge hout =>
      (hbelow c hc v hv callee hedge hout).1.recomputed).1 (by simpa using htake)
    obtain ⟨results, hresults, -⟩ := h.summarizeComponent_eq_earlier ∅ hlayer hcl hstays
      (fun _ _ w _ => hneutral w) hid (fun v hv => h.unpublished hsplit hscratch hcl hv)
      fun v hv callee hedge hout => by
        obtain ⟨hrecorded, hsame, -⟩ := hbelow c hc v hv callee hedge hout
        rw [← hsame]
        exact hrecorded.summary fun w hw => hstays v hv w (.head hedge hw)
    exact ⟨results, hresults⟩
  · obtain ⟨hcl, -, hknown⟩ := hmember c hc
    have hnot : ¬ (ofProgram p' rules limits previous).Inherited res c := fun hinherited => by
      rw [hinherited.2] at htake
      cases htake
    refine Result.related_of_eq (fun _ => trivial)
      (h.summarizeComponent_eq_scratch previous hknown fun v hv callee hedge => ?_)
    by_cases hin : callee ∈ c
    · rw [h.unpublished hsplit hscratch hcl hin, ← h.unpublished hsplit hstage hcl hin]
      refine (sameAt_base fun d hd hind => ?_).summary
      exact eq_of_mem_layer (hlayered.disjoint layer hlayer) hd hcl hind hin ▸ hnot
    · obtain ⟨-, hsame, hout⟩ := hbelow c hc v hv callee hedge hin
      rw [← hsame]
      exact (sameAt_base fun d hd hind => absurd hind (hout d hd)).summary

theorem related_foldlM (h : Rerun p p' rules limits previous) (hneutral : ∀ w, Neutral p p' w)
    {done remaining : List (List Names)} (hsplit : (CallGraph.ofProgram p').layers = done ++ remaining)
    {scratch : Resolution} (hscratch : (ofProgram p' rules limits ∅).Stage done scratch)
    (hstage : (ofProgram p' rules limits previous).Stage done res) (allowance : Allowance) :
    Result.Related (fun x y => y.2 = x.2)
      (remaining.foldlM (fun (res, allowance) layer => do
        let allowance ← allowance.check .summaries
        return (← (ofProgram p' rules limits ∅).resolveLayer res layer, allowance)) (scratch, allowance))
      (remaining.foldlM (fun (res, allowance) layer => do
        let allowance ← allowance.check .summaries
        return (← (ofProgram p' rules limits previous).resolveLayer res layer, allowance))
          (res, allowance)) := by
  induction remaining generalizing done scratch res allowance with
  | nil => exact Result.related_ok rfl
  | cons layer rest ih =>
    have hlayered := CallGraph.layered_layers (CallGraph.ofProgram p') rfl
    have hvalid : ∀ id ∈ validFunctions p', ∃ f, p'.functions.get? id = some f := fun _ =>
      exists_function_of_mem_valid
    rw [List.foldlM_cons, List.foldlM_cons]
    refine Result.Related.bind (R := fun x y => y.2 = x.2 ∧
      (ofProgram p' rules limits ∅).Stage (done ++ [layer]) x.1 ∧
      (ofProgram p' rules limits previous).Stage (done ++ [layer]) y.1) ?_ ?_
    · dsimp only
      refine (Result.related_of_eq (R := Eq) (fun _ => rfl) rfl).bind fun left left' _ _ hleft => ?_
      refine (h.related_resolveLayer hneutral hsplit hscratch hstage).bind fun a b ha hb _ => ?_
      exact Result.related_ok ⟨hleft.symm, hscratch.next h.keyed' hvalid hlayered hsplit ha,
        hstage.next h.keyed' hvalid hlayered hsplit hb⟩
    · rintro ⟨a, left⟩ ⟨b, left'⟩ - - ⟨hleft, ha, hb⟩
      dsimp only at hleft
      subst hleft
      exact ih (by rw [hsplit, List.append_assoc, List.singleton_append]) ha hb left'

/-- A resolution from nothing publishes a summary of each function. -/
theorem exists_published (h : Rerun p p' rules limits previous) {scratch : Resolution}
    (hscratch : (ofProgram p' rules limits ∅).Stage (CallGraph.ofProgram p').layers scratch)
    (hid : id ∈ p'.functionIds) : ∃ s, scratch.summaries.get? id = some s := by
  obtain ⟨layer, hlayer, c, hc, hidc⟩ := exists_component hid
  rcases hscratch.settled layer hlayer c hc with
    ⟨hinherited, -⟩ | ⟨-, table, -, -, results, -, hspec, hpublished, -⟩
  · exact absurd hinherited (not_inherited rfl)
  · obtain ⟨s, hs, rfl⟩ := hspec.complete id (mem_membersOf_iff.2 ⟨hidc, h.mem_valid hid⟩)
    exact ⟨s, (hpublished s hs).summary⟩

theorem related_resolve (h : Rerun p p' rules limits previous) (hneutral : ∀ w, Neutral p p' w)
    (allowance : Allowance) :
    ((ofProgram p' rules limits ∅).resolve allowance).Related (fun x y => y.2 = x.2)
      ((ofProgram p' rules limits previous).resolve allowance) := by
  unfold resolve
  have hdefined : CallGraph.isDefinedFor (ofProgram p' rules limits previous).program =
      CallGraph.isDefinedFor (ofProgram p' rules limits ∅).program := rfl
  rw [hdefined]
  split
  · exact h.related_foldlM hneutral (List.nil_append _).symm (.initial _) (.initial _) allowance
  · exact Result.related_error _ _

end Rerun

/-- **Resolving an edited program comes to the same as resolving it from nothing.**  The earlier summaries
are those of any program with the same globals, provided that a function that has kept its hash has kept
its document.  The second resolution then ends as one from nothing does, also when that one fails, and
every function has the same summary. -/
theorem resolve_incremental (p p' : Program) (rules : Registry) (limits : ResolveLimits)
    (hkeyed : p.WellKeyed) (hkeyed' : p'.WellKeyed) (hglobals : p.globals = p'.globals)
    (hvalid : ∀ id f, p'.functions.get? id = some f → f.isValid p'.functionIds = true)
    (hread : ∀ id, p'.malformed.get? id = none)
    (hreadOnce : ∀ id f, p.functions.get? id = some f → p.malformed.get? id = none)
    (hhashes : ∀ id f g, p.functions.get? id = some f → p'.functions.get? id = some g →
      f.contentHash = g.contentHash → f.toDocument.normal = g.toDocument.normal)
    (allowance left : Allowance) (previous : Resolution)
    (hprevious : (ofProgram p rules limits ∅).resolve allowance = .ok (previous, left))
    (allowance' : Allowance) :
    (∀ fault, (ofProgram p' rules limits ∅).resolve allowance' = .error fault →
      (ofProgram p' rules limits previous.summaries).resolve allowance' = .error fault) ∧
    ∀ scratch left', (ofProgram p' rules limits ∅).resolve allowance' = .ok (scratch, left') →
      ∃ res, (ofProgram p' rules limits previous.summaries).resolve allowance' = .ok (res, left') ∧
        ∀ id ∈ p'.functionIds, ∃ s, scratch.summaries.get? id = some s ∧
          res.summaries.get? id = some s := by
  have h : Rerun p p' rules limits previous.summaries :=
    ⟨hkeyed, hkeyed', hreadOnce, hvalid, hread, hhashes, allowance, previous, left, hprevious, rfl⟩
  have hneutral : ∀ w, Neutral p p' w := fun w g _ => by rw [hglobals]
  obtain ⟨hfaults, hends⟩ := h.related_resolve hneutral allowance'
  refine ⟨hfaults, fun scratch left' hscratch => ?_⟩
  obtain ⟨⟨res, _⟩, hres, rfl⟩ := hends _ hscratch
  refine ⟨res, hres, fun id hid => ?_⟩
  have hstage := stage_of_resolve hkeyed' hscratch
  obtain ⟨s, hs⟩ := h.exists_published hstage hid
  obtain ⟨layer, hlayer, c, hc, hidc⟩ := exists_component hid
  have hsame := h.same_of_stage (List.append_nil _).symm hstage (stage_of_resolve hkeyed' hres) layer
    hlayer c hc id hidc hid fun w _ => hneutral w
  exact ⟨s, hs, hsame.trans hs⟩

end Resolver

/-- Two functions that call each other, the one that the second of them calls, and a new one that calls
into them. -/
def extended : Program where
  functions := .ofList [("f", caller), ("g", chooser), ("h", .bare "h" "end" [] [("end", .bare .ret [])]),
    ("k", .bare "k" "call" [] [("call", { Node.bare .call [] with callee := .text "g" })])]
  globals := ∅
  malformed := ∅

theorem extended_wellKeyed : extended.WellKeyed := Program.wellKeyed_of_all (by decide +kernel)

/-- With the new function, the old ones have the summaries that they had. -/
theorem resolve_incremental_extended : ∃ previous left scratch left' res,
    (Resolver.ofProgram supplied (.empty ∅) ⟨10, 5⟩ ∅).resolve .unlimited = .ok (previous, left) ∧
      (Resolver.ofProgram extended (.empty ∅) ⟨10, 5⟩ ∅).resolve .unlimited = .ok (scratch, left') ∧
      (Resolver.ofProgram extended (.empty ∅) ⟨10, 5⟩ previous.summaries).resolve .unlimited =
        .ok (res, left') ∧
      ∀ id ∈ extended.functionIds, ∃ s, scratch.summaries.get? id = some s ∧
        res.summaries.get? id = some s := by
  obtain ⟨previous, left, hprevious, -⟩ := exists_known_supplied
  obtain ⟨⟨scratch, left'⟩, hscratch, -⟩ := Result.exists_ok_of_any
    (r := (Resolver.ofProgram extended (.empty ∅) ⟨10, 5⟩ ∅).resolve .unlimited)
    (p := fun result => (result.1.summaries.get? "k").any (fun s => !s.unknown))
    (by decide +kernel)
  have hkept : ∀ entry ∈ supplied.functions.entries, extended.functions.get? entry.1 = some entry.2 := by
    decide +kernel
  have hvalid : ∀ entry ∈ extended.functions.entries,
      entry.2.isValid extended.functionIds = true := by decide +kernel
  obtain ⟨res, hres, hsame⟩ := (Resolver.resolve_incremental supplied extended (.empty ∅) ⟨10, 5⟩
    supplied_wellKeyed extended_wellKeyed rfl
    (fun id f hf => hvalid (id, f) (Table.mem_entries_iff.2 hf)) (fun _ => rfl) (fun _ _ _ => rfl)
    (fun id f g hf hg _ => by
      obtain rfl : f = g := Option.some.inj ((hkept (id, f) (Table.mem_entries_iff.2 hf)).symm.trans hg)
      rfl)
    .unlimited left previous hprevious .unlimited).2 scratch left' hscratch
  exact ⟨previous, left, scratch, left', res, hprevious, hscratch, hres, hsame⟩

end TaintFlow
