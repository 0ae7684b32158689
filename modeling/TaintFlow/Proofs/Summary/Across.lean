import TaintFlow.Proofs.Flow.Core
import TaintFlow.Proofs.Flow.Exact
import TaintFlow.Proofs.Flow.Inputs
import TaintFlow.Proofs.Summary.Contents
import TaintFlow.Proofs.Summary.Rounds

/-!
# The same component in two programs

Functions with the same core and the same hash, in two programs that agree on the globals that they
mention, get the same summaries from the same summaries of what they call (`summarize_across`).  So do
whole components (`summarizeComponent_across`).
-/

namespace TaintFlow

/-- Every call of the function that names a function names one of the program. -/
def Function.CallsKnown (f : Function) (known : Names) : Prop :=
  ∀ id n, f.node? id = some n → n.kind = .call → n.callee.isNull = false →
    ∃ callee, n.callee = .text callee ∧ callee ∈ known

theorem Function.callsKnown_of_defect? {f : Function} {known : Names} (h : f.defect? known = none) :
    f.CallsKnown known := by
  intro id n hn hkind hnull
  unfold defect? at h
  split at h
  · cases h
  · split at h
    · cases h
    · have hnode := List.findSome?_eq_none_iff.1 h (id, n) (Table.mem_entries_iff.2 hn)
      dsimp only at hnode
      unfold Node.defect? at hnode
      split at hnode
      · cases hnode
      · rw [hkind] at hnode
        simp only [hnull, Bool.not_false, if_true] at hnode
        split at hnode
        · next hknown =>
          unfold Node.isKnown at hknown
          split at hknown
          · next callee hcallee => exact ⟨callee, hcallee, by simpa using hknown⟩
          · cases hknown
        · cases hnode

theorem Function.exists_node?_of_core {f g : Function} (hcore : f.core = g.core) {id : String} {n : Node}
    (hn : f.node? id = some n) : ∃ m, g.node? id = some m ∧ m.core = n.core := by
  have hnode : (f.node? id).map Node.core = (g.node? id).map Node.core := by
    rw [← node?_core, ← node?_core, hcore]
  rw [hn, Option.map_some] at hnode
  exact Option.map_eq_some_iff.1 hnode.symm

theorem Function.CallsKnown.of_core {f g : Function} {known : Names} (h : f.CallsKnown known)
    (hcore : f.core = g.core) : g.CallsKnown known := by
  intro id n hn hkind hnull
  obtain ⟨m, hm, hmn⟩ := exists_node?_of_core hcore.symm hn
  have hsame : m.core.kind = n.core.kind ∧ m.core.callee = n.core.callee := by
    rw [hmn]
    exact ⟨rfl, rfl⟩
  obtain ⟨hkind', hcallee⟩ : m.kind = n.kind ∧ m.callee.outline = n.callee.outline := hsame
  have hnull' : m.callee.isNull = false := by
    rw [← Document.isNull_outline, hcallee, Document.isNull_outline, hnull]
  obtain ⟨callee, hname, hknown⟩ := h id m hm (hkind'.trans hkind) hnull'
  refine ⟨callee, ?_, hknown⟩
  rw [← Document.outline_eq_text_iff, ← hcallee, hname]
  rfl

theorem Function.calls_of_core {f g : Function} {known known' : Names} {callee : String}
    (hcore : f.core = g.core) (hg : g.CallsKnown known') (h : f.Calls known callee) :
    g.Calls known' callee := by
  obtain ⟨id, n, hn, hkind, hcallee, -, hdynamic⟩ := h
  obtain ⟨m, hm, hmn⟩ := exists_node?_of_core hcore hn
  have hsame : m.core.kind = n.core.kind ∧ m.core.callee = n.core.callee ∧
      m.core.dynamic = n.core.dynamic := by
    rw [hmn]
    exact ⟨rfl, rfl, rfl⟩
  have hkind' : m.kind = .call := hsame.1.trans hkind
  have hcallee' : m.callee = .text callee := by
    have h : m.callee.outline = n.callee.outline := hsame.2.1
    rw [← Document.outline_eq_text_iff, h, hcallee]
    rfl
  have hdynamic' : m.dynamic = false := hsame.2.2.trans hdynamic
  obtain ⟨name, hname, hknown⟩ := hg id m hm hkind' (by rw [hcallee']; rfl)
  rw [hcallee', Document.text.injEq] at hname
  exact ⟨id, m, hm, hkind', hcallee', hname ▸ hknown, hdynamic'⟩

theorem Summary.ofAnalysis_eq_of_core {f g : Function} (hcore : f.core = g.core)
    (hhash : f.contentHash = g.contentHash) (a : Analysis) : ofAnalysis f a = ofAnalysis g a := by
  have hsame : f.core.id = g.core.id ∧ f.core.params = g.core.params := by
    rw [hcore]
    exact ⟨rfl, rfl⟩
  obtain ⟨hid, hparams⟩ : f.id = g.id ∧ f.params = g.params := hsame
  have houtputs : outputs f a = outputs g a := by
    simp only [outputs, Function.indexedParams, Function.paramKey, hid, hparams]
  simp only [ofAnalysis, houtputs, hid, hhash]

namespace Resolver

variable {r r' : Resolver} {f g : Function} {view view' : String → Option Summary}

/-- An output that stands for a global stands for one that is mentioned. -/
theorem mem_globals_of_marker {f : Function} {a : Analysis} {o : Summary.Output}
    (ho : o ∈ Summary.outputs f a) {name : String} (hname : globalOfMarker? o.marker = some name) :
    name ∈ a.globals := by
  simp only [Summary.outputs, List.cons_append, List.mem_cons, List.mem_append, List.mem_map] at ho
  rcases ho with rfl | ⟨⟨i, p⟩, -, rfl⟩ | ⟨other, hother, rfl⟩
  · have hnone : globalOfMarker? returnSlot = none := by decide
    rw [hnone] at hname
    cases hname
  · rw [globalOfMarker?_paramMarker] at hname
    cases hname
  · rw [globalOfMarker?_globalMarker, Option.some.injEq] at hname
    exact hname ▸ (List.mem_filter.1 hother).1

/-- A summary writes globals that its function mentions, so two sets that have the same of those have the
same of what it writes. -/
theorem sameGlobals_of_summarize {s : Summary} {globals : Names} (h : r.summarize view f = .ok s)
    (hglobals : f.globalsIn globals = f.globalsIn r.program.globals) :
    s.SameGlobals r.program.globals globals := by
  rcases summarize_cases h with ⟨a, ha, rfl⟩ | ⟨error, rfl⟩
  · intro output houtput name hname
    obtain ⟨p, -, rfl⟩ := Frame.analyze_eq_ok ha
    obtain ⟨defs, hdefs⟩ := OrderedMap.mem_keys_iff.1 houtput
    obtain ⟨o, ho, rfl, -⟩ := (Summary.get?_ofList_outputs f _ _ _ _ _).1 hdefs
    have hmentioned : name ∈ f.globalsIn r.program.globals := mem_globals_of_marker ho hname
    have hmentioned' : name ∈ f.globalsIn globals := hglobals.symm ▸ hmentioned
    exact ⟨fun _ => (OrderedSet.mem_filter.1 hmentioned).1,
      fun _ => (OrderedSet.mem_filter.1 hmentioned').1⟩
  · exact fun output houtput => absurd houtput List.not_mem_nil

/-- Two functions, each in its program, between which summaries can be exchanged. -/
structure Alike (r r' : Resolver) (f g : Function) : Prop where
  core : f.core = g.core
  contentHash : f.contentHash = g.contentHash
  globals : f.globalsIn r'.program.globals = f.globalsIn r.program.globals
  known : f.CallsKnown r.program.functionIds
  known' : g.CallsKnown r'.program.functionIds

/-- Both programs know every function that is called. -/
theorem calleeOf_of_alike (h : r.Alike r' f g) (view view' : String → Option Summary) {id : String}
    {n : Node} (hn : f.node? id = some n) (hkind : n.kind = .call) :
    (r'.frameOf view' f).calleeOf n = (r.frameOf view f).calleeOf n := by
  unfold Frame.calleeOf
  cases hname : n.callee with
  | text callee =>
    have hnull : n.callee.isNull = false := by rw [hname]; rfl
    obtain ⟨name, hcallee, hin⟩ := h.known id n hn hkind hnull
    obtain ⟨name', hcallee', hin'⟩ := (h.known'.of_core h.core.symm) id n hn hkind hnull
    rw [hname, Document.text.injEq] at hcallee hcallee'
    subst hcallee hcallee'
    have hknown : callee ∈ (r.frameOf view f).known := hin
    have hknown' : callee ∈ (r'.frameOf view' f).known := hin'
    simp only [hknown, hknown', and_true]
  | _ => rfl

/-- **Functions with one core get the same summary from the same summaries.** -/
theorem summarize_across (h : r.Alike r' f g) (hrules : r.rules = r'.rules)
    (hlimits : r.limits = r'.limits)
    (hviews : ∀ callee, f.Calls r.program.functionIds callee → view' callee = view callee ∧
      ∀ s, view callee = some s → s.SameGlobals r.program.globals r'.program.globals) :
    r'.summarize view' g = r.summarize view f := by
  have hagrees : ∀ id n, (r.frameOf view f).function.node? id = some n →
      (r.frameOf view f).AgreesAt (fun id => (view' id).map Summary.toEffect) r'.program.globals
        r'.program.functionIds n := by
    intro id n hn hkind
    refine ⟨calleeOf_of_alike h view view' hn hkind, fun callee hcallee => ?_⟩
    obtain ⟨hview, hsame⟩ := hviews callee (calls_of_calleeOf hn hkind hcallee)
    refine ⟨congrArg (Option.map Summary.toEffect) hview, fun e he => ?_⟩
    obtain ⟨s, hs, rfl⟩ := Option.map_eq_some_iff.1 he
    exact hsame s hs
  have hframe : (r'.frameOf view' g).core =
      ((r.frameOf view f).within (fun id => (view' id).map Summary.toEffect) r'.program.globals
        r'.program.functionIds).core := by
    unfold frameOf Frame.within Frame.core
    rw [hrules, h.core]
  have hinputs : g.symbolicInputs r'.program.globals = f.symbolicInputs r.program.globals := by
    rw [← Function.symbolicInputs_core, ← h.core, Function.symbolicInputs_core]
    unfold Function.symbolicInputs
    rw [h.globals]
  have hanalyze : (r'.frameOf view' g).analyze (.whole r'.limits.maxVisits)
      (g.symbolicInputs r'.program.globals) = (r.frameOf view f).analyze (.whole r.limits.maxVisits)
        (f.symbolicInputs r.program.globals) := by
    rw [← Frame.analyze_core, hframe, Frame.analyze_core, hinputs, hlimits]
    exact Frame.analyze_within hagrees h.globals _ _
  have hsummary := Summary.ofAnalysis_eq_of_core h.core h.contentHash
  have hid : f.id = g.id := by
    have hid : f.core.id = g.core.id := by rw [h.core]
    exact hid
  rw [summarize_eq, summarize_eq, hanalyze, hid, h.contentHash]
  simp only [hsummary]

/-! ### Rounds -/

/-- The function is alike in both programs, and what was published for the functions that it calls is
the same, with the same globals. -/
def AlikeAt (r r' : Resolver) (published published' : NameMap Summary) (id : String) : Prop :=
  ∃ f g, r.program.functions.get? id = some f ∧ r'.program.functions.get? id = some g ∧
    r.Alike r' f g ∧ ∀ callee, f.Calls r.program.functionIds callee →
      published'.get? callee = published.get? callee ∧
        ∀ s, published.get? callee = some s → s.SameGlobals r.program.globals r'.program.globals

/-- Of the globals that the summaries write, both programs have the same. -/
def Exchangeable (r r' : Resolver) (table : NameMap Summary) : Prop :=
  ∀ id s, table.get? id = some s → s.SameGlobals r.program.globals r'.program.globals

variable {published published' provisional next : NameMap Summary}

theorem summarize_of_alikeAt (hrules : r.rules = r'.rules) (hlimits : r.limits = r'.limits)
    (halike : r.Alike r' f g) (hcalls : ∀ callee, f.Calls r.program.functionIds callee →
      published'.get? callee = published.get? callee ∧
        ∀ s, published.get? callee = some s → s.SameGlobals r.program.globals r'.program.globals)
    (hprovisional : r.Exchangeable r' provisional) :
    r'.summarize (Resolver.view published' provisional) g =
      r.summarize (Resolver.view published provisional) f := by
  refine summarize_across halike hrules hlimits fun callee hcallee => ?_
  obtain ⟨hsame, hglobals⟩ := hcalls callee hcallee
  unfold Resolver.view
  cases hget : provisional.get? callee with
  | none => exact ⟨hsame, hglobals⟩
  | some t =>
    refine ⟨rfl, fun s hs => ?_⟩
    obtain rfl : t = s := Option.some.inj hs
    exact hprovisional callee t hget

theorem refine_across (hrules : r.rules = r'.rules) (hlimits : r.limits = r'.limits) {id : String}
    (hid : r.AlikeAt r' published published' id) (hprovisional : r.Exchangeable r' provisional)
    (changed : Bool) :
    r'.refine published' (provisional, changed) id = r.refine published (provisional, changed) id := by
  obtain ⟨f, g, hf, hg, halike, hcalls⟩ := hid
  have hnew : r'.summarize (fun id => (provisional.get? id).or (published'.get? id)) g =
      r.summarize (fun id => (provisional.get? id).or (published.get? id)) f :=
    summarize_of_alikeAt hrules hlimits halike hcalls hprovisional
  unfold refine
  simp only [hf, hg, hnew]

theorem Exchangeable.refine {id : String} {changed changed' : Bool} (hid : r.AlikeAt r' published published' id)
    (h : r.Exchangeable r' provisional)
    (hrefine : r.refine published (provisional, changed) id = .ok (next, changed')) :
    r.Exchangeable r' next := by
  rcases refine_cases hrefine with ⟨rfl, -, -⟩ | ⟨f, new, hf, hnew, -, rfl, -⟩
  · exact h
  · obtain ⟨f', g, hf', -, halike, -⟩ := hid
    obtain rfl : f' = f := Option.some.inj (hf'.symm.trans hf)
    intro other s hs
    rw [OrderedMap.get?_set] at hs
    split at hs
    · cases hs
      exact sameGlobals_of_summarize hnew halike.globals
    · exact h other s hs

theorem round_across (hrules : r.rules = r'.rules) (hlimits : r.limits = r'.limits) {ids : List String}
    (hids : ∀ id ∈ ids, r.AlikeAt r' published published' id)
    (hprovisional : r.Exchangeable r' provisional) (changed : Bool) :
    ids.foldlM (r'.refine published') (provisional, changed) =
        ids.foldlM (r.refine published) (provisional, changed) ∧
      ∀ {next changed'}, ids.foldlM (r.refine published) (provisional, changed) = .ok (next, changed') →
        r.Exchangeable r' next := by
  induction ids generalizing provisional changed with
  | nil =>
    refine ⟨rfl, fun h => ?_⟩
    cases h
    exact hprovisional
  | cons id rest ih =>
    have hid := hids id List.mem_cons_self
    have hfirst := refine_across hrules hlimits hid hprovisional changed
    rw [List.foldlM_cons, List.foldlM_cons, hfirst]
    cases hr : r.refine published (provisional, changed) id with
    | error fault =>
      refine ⟨rfl, fun h => ?_⟩
      cases h
    | ok round =>
      obtain ⟨mid, changedMid⟩ := round
      exact ih (fun other ho => hids other (List.mem_cons_of_mem id ho))
        (hprovisional.refine hid hr) changedMid

theorem rounds_across (hrules : r.rules = r'.rules) (hlimits : r.limits = r'.limits)
    {members : List String} (hmembers : ∀ id ∈ members, r.AlikeAt r' published published' id) (n : Nat)
    (hprovisional : r.Exchangeable r' provisional) :
    r'.rounds published' members n provisional = r.rounds published members n provisional := by
  induction n generalizing provisional with
  | zero => rfl
  | succ n ih =>
    obtain ⟨hround, hnext⟩ := round_across hrules hlimits hmembers hprovisional false
    rw [rounds, rounds, hround]
    cases hr : members.foldlM (r.refine published) (provisional, false) with
    | error fault => rfl
    | ok round =>
      obtain ⟨mid, changed⟩ := round
      have hrest := ih (hnext hr)
      simp only [bind, Except.bind, hrest]

/-- **A component is summarised alike in two programs** in which its members are alike. -/
theorem summarizeComponent_across (hrules : r.rules = r'.rules) (hlimits : r.limits = r'.limits)
    {c : Names} (hmembers : r'.membersOf c = r.membersOf c)
    (hrecursive : r'.graph.isRecursive c = r.graph.isRecursive c)
    (halike : ∀ id ∈ r.membersOf c, r.AlikeAt r' published published' id) :
    r'.summarizeComponent published' c = r.summarizeComponent published c := by
  have hbudget : r'.budgetOf c = r.budgetOf c := by
    unfold budgetOf
    rw [hrecursive, hlimits]
  have hfailed : r'.giveUp c = r.giveUp c := by
    unfold giveUp
    rw [hmembers, ← hlimits]
    refine bind_congr fun shown => congrArg Except.ok (List.filterMap_congr fun id hid => ?_)
    obtain ⟨f, g, hf, hg, hfg, -⟩ := halike id hid
    rw [hf, hg, Option.map_some, Option.map_some, hfg.contentHash]
  have hempty : r.Exchangeable r' ∅ := fun id s hs => by cases hs
  have hrounds := rounds_across hrules hlimits halike (r.budgetOf c).toNat hempty
  rw [summarizeComponent_eq, summarizeComponent_eq, hbudget, hmembers, hfailed, hrounds]

end Resolver

end TaintFlow
