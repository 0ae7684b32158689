import Mathlib.Data.List.Basic
import TaintFlow.Proofs.Collection
import TaintFlow.Proofs.Result
import TaintFlow.Rules.Decode

/-!
# Registering roles

A call that registers a role either is refused, whatever is registered already, or declares a rule
(`register_eq`).  Next to a source of the same function a sanitizer rule loses the contexts that the
source takes (`SanitizerRule.without`), and is dropped if it lost its last one (`reduce_eq`).  What is left
clashes no more, so resolving the conflicts of a function again changes nothing
(`Unclashed.left_eq_self`); every registry that is filled by declarations is settled in this way
(`Settled.foldl_declare`).
-/

namespace TaintFlow

/-! ### A sanitizer rule next to a source -/

namespace SanitizerRule

/-- A rule without what a source takes: the context of the source, or all contexts if it has none. -/
def without : Option Context → SanitizerRule → SanitizerRule
  | none, rule => { rule with contexts := ∅ }
  | some c, rule => { rule with contexts := rule.contexts.erase c }

/-- A source without a context clashes with every rule, one with a context with the rules for it. -/
def clashes : Option Context → SanitizerRule → Bool
  | none, _ => true
  | some c, rule => rule.covers c

/-- A rule is dropped if it clashes with the source and has no context left. -/
def survives (taken : Option Context) (rule : SanitizerRule) : Bool :=
  !(rule.clashes taken && (rule.without taken).contexts.isEmpty)

variable {taken : Option Context} {rule : SanitizerRule}

@[simp] theorem strength_without (taken : Option Context) (rule : SanitizerRule) :
    (rule.without taken).strength = rule.strength := by
  cases taken <;> rfl

theorem without_eq_self (h : rule.clashes taken = false) : rule.without taken = rule := by
  cases taken with
  | none => cases h
  | some c =>
    have hc : c ∉ rule.contexts := of_decide_eq_false h
    have herase : rule.contexts.erase c = rule.contexts := by
      refine OrderedSet.eq_of_mem_iff fun x => ?_
      rw [OrderedSet.mem_erase]
      exact and_iff_left_of_imp fun hx hxc => hc (hxc ▸ hx)
    rw [without, herase]

theorem mem_of_mem_without {c : Context} (h : c ∈ (rule.without taken).contexts) :
    c ∈ rule.contexts := by
  cases taken with
  | none => exact absurd h (OrderedSet.not_mem_empty c)
  | some taken => exact (OrderedSet.mem_erase.1 h).1

theorem survives_of_not_clashes (h : rule.clashes taken = false) : rule.survives taken = true := by
  simp [survives, h]

theorem clashes_without (h : rule.survives taken = true) :
    (rule.without taken).clashes taken = false := by
  cases taken with
  | none => cases h
  | some c => simp [clashes, without, covers, OrderedSet.mem_erase]

end SanitizerRule

namespace Registry

open SanitizerRule (without clashes survives)

variable {source : SourceRule} {rule : SanitizerRule} {api : String}

theorem clashing_eq_nil_iff : clashing source rule = [] ↔ rule.clashes source.context = false := by
  unfold clashing clashes
  cases source.context with
  | none =>
    dsimp only
    split
    · simp
    · next hne => simpa [OrderedSet.isEmpty] using hne
  | some c => by_cases hc : c ∈ rule.contexts <;> simp [hc, SanitizerRule.covers]

/-- The contexts that clash are those that the rule loses. -/
theorem some_mem_clashing_iff {c : Context} : some c ∈ clashing source rule ↔
    c ∈ rule.contexts ∧ c ∉ (rule.without source.context).contexts := by
  unfold clashing without
  cases source.context with
  | none =>
    dsimp only
    split
    · next hempty => simpa using OrderedSet.isEmpty_iff.1 hempty c
    · simp only [List.mem_map, Option.some.injEq, exists_eq_right]
      exact (and_iff_left (OrderedSet.not_mem_empty c)).symm
  | some taken =>
    dsimp only
    rw [OrderedSet.mem_erase]
    split
    · next htaken =>
      rw [List.mem_singleton, Option.some.injEq]
      constructor
      · rintro rfl
        exact ⟨htaken, fun h => h.2 rfl⟩
      · exact fun h => by_contra fun hne => h.2 ⟨h.1, hne⟩
    · next htaken =>
      exact iff_of_false List.not_mem_nil fun h => h.2 ⟨h.1, fun he => htaken (he ▸ h.1)⟩

/-- **A rule is kept without what the source takes, or dropped.** -/
theorem reduce_eq : reduce source rule =
    if rule.survives source.context then some (rule.without source.context) else none := by
  by_cases hclash : rule.clashes source.context = true
  · have hne : (clashing source rule).isEmpty = false := by
      rw [List.isEmpty_eq_false_iff]
      exact fun hnil => by simp [clashing_eq_nil_iff.1 hnil] at hclash
    have hleft : rule.contexts.filter (fun c => some c ∉ clashing source rule) =
        (rule.without source.context).contexts := by
      refine OrderedSet.eq_of_mem_iff fun c => ?_
      simp only [OrderedSet.mem_filter, some_mem_clashing_iff, decide_eq_true_eq]
      exact ⟨fun h => by_contra fun hnot => h.2 ⟨h.1, hnot⟩,
        fun h => ⟨SanitizerRule.mem_of_mem_without h, fun hnot => hnot.2 h⟩⟩
    have hrule : { rule with contexts := (rule.without source.context).contexts } =
        rule.without source.context := by
      rw [← SanitizerRule.strength_without source.context rule]
    unfold reduce survives
    dsimp only
    rw [hne, hleft, hrule, hclash]
    cases (rule.without source.context).contexts.isEmpty <;> rfl
  · have hclash : rule.clashes source.context = false := by simpa using hclash
    unfold reduce
    simp [clashing_eq_nil_iff.2 hclash, SanitizerRule.survives_of_not_clashes hclash,
      SanitizerRule.without_eq_self hclash]

/-! ### The rules that are left next to a source -/

/-- The rules that are left next to a source, if there is one. -/
def left : Option SourceRule → List SanitizerRule → List SanitizerRule
  | none, rules => rules
  | some source, rules => (rules.filter (survives source.context)).map (without source.context)

/-- The conflicts of some rules with a source, if there is one. -/
def reported (api : String) : Option SourceRule → List SanitizerRule → List RuleConflict
  | none, _ => []
  | some source, rules => rules.flatMap (conflictsOf api source)

/-- No rule clashes with a source, if there is one. -/
def Unclashed (source : Option SourceRule) (rules : List SanitizerRule) : Prop :=
  ∀ s, source = some s → ∀ rule ∈ rules, rule.clashes s.context = false

variable {found : Option SourceRule} {rules more : List SanitizerRule}

theorem filterMap_reduce : rules.filterMap (reduce source) = left (some source) rules := by
  rw [left, ← List.filterMap_eq_filter, List.map_filterMap]
  refine List.filterMap_congr fun rule _ => ?_
  rw [reduce_eq]
  by_cases h : rule.survives source.context = true <;> simp [Option.guard, h]

theorem left_append : left found (rules ++ more) = left found rules ++ left found more := by
  cases found <;> simp [left]

theorem reported_append :
    reported api found (rules ++ more) = reported api found rules ++ reported api found more := by
  cases found <;> simp [reported]

theorem unclashed_left : Unclashed found (left found rules) := by
  rintro s rfl rule hrule
  obtain ⟨kept, hkept, rfl⟩ := List.mem_map.1 hrule
  exact SanitizerRule.clashes_without (List.mem_filter.1 hkept).2

theorem Unclashed.left_eq_self (h : Unclashed found rules) : left found rules = rules := by
  cases found with
  | none => rfl
  | some source =>
    have hkept : rules.filter (survives source.context) = rules :=
      List.filter_eq_self.2 fun rule hrule =>
        SanitizerRule.survives_of_not_clashes (h source rfl rule hrule)
    rw [left, hkept]
    exact (List.map_congr_left fun rule hrule =>
      SanitizerRule.without_eq_self (h source rfl rule hrule)).trans (List.map_id rules)

theorem Unclashed.reported_eq_nil (h : Unclashed found rules) (api : String) :
    reported api found rules = [] := by
  cases found with
  | none => rfl
  | some source =>
    refine List.flatMap_eq_nil_iff.2 fun rule hrule => ?_
    rw [conflictsOf, clashing_eq_nil_iff.2 (h source rfl rule hrule)]
    rfl

/-! ### Resolving the conflicts of a function -/

variable {r r' : Registry} {key other : Key}

def rulesOf (r : Registry) (key : Key) : List SanitizerRule := r.sanitizers.getD key []

def Tidy (r : Registry) : Prop := ∀ key, r.sanitizers.get? key ≠ some []

theorem Tidy.get?_sanitizers (h : r.Tidy) (key : Key) :
    r.sanitizers.get? key = if r.rulesOf key = [] then none else some (r.rulesOf key) := by
  rw [rulesOf, OrderedMap.getD]
  cases hrules : r.sanitizers.get? key with
  | none => rfl
  | some rules => exact (if_neg fun hnil : rules = [] => h key (hnil ▸ hrules)).symm

theorem get?_setSanitizers : (r.setSanitizers key rules).sanitizers.get? other =
    if other = key then (if rules = [] then none else some rules) else r.sanitizers.get? other := by
  unfold setSanitizers
  by_cases hrules : rules = []
  · rw [if_pos (by simpa using hrules), if_pos hrules]
    refine Option.ext fun found => ?_
    rw [← OrderedMap.mem_entries_iff, List.mem_filter, OrderedMap.mem_entries_iff]
    by_cases h : other = key <;> simp [h]
  · rw [if_neg (by simpa using hrules), OrderedMap.get?_set, if_neg hrules]

theorem rulesOf_setSanitizers : (r.setSanitizers key rules).rulesOf other =
    if other = key then rules else r.rulesOf other := by
  rw [rulesOf, OrderedMap.getD, get?_setSanitizers]
  split
  · split
    · next hrules => exact hrules.symm
    · rfl
  · rfl

theorem Tidy.setSanitizers (h : r.Tidy) : (r.setSanitizers key rules).Tidy := by
  intro other
  rw [get?_setSanitizers]
  split
  · split
    · simp
    · next hrules => simpa using hrules
  · exact h other

/-- Sanitizer rules are all that is set. -/
theorem exists_setSanitizers_eq (r : Registry) (key : Key) (rules : List SanitizerRule) :
    ∃ sanitizers, r.setSanitizers key rules = { r with sanitizers } := by
  unfold setSanitizers
  split <;> exact ⟨_, rfl⟩

/-- **Either nothing clashes and nothing changes, or what is left of the rules takes their place.** -/
theorem resolveConflicts_cases (r : Registry) (key : Key) (api : String) :
    (Unclashed (r.sources.get? key) (r.rulesOf key) ∧ r.resolveConflicts key api = r) ∨
      r.resolveConflicts key api =
        { r with
          conflicts := r.conflicts ++ reported api (r.sources.get? key) (r.rulesOf key) }.setSanitizers
          key (left (r.sources.get? key) (r.rulesOf key)) := by
  unfold resolveConflicts rulesOf OrderedMap.getD
  cases r.sources.get? key with
  | none => exact Or.inl ⟨nofun, rfl⟩
  | some source =>
    cases r.sanitizers.get? key with
    | none => exact Or.inl ⟨nofun, rfl⟩
    | some rules =>
      right
      dsimp only
      rw [filterMap_reduce]
      rfl

theorem exists_resolveConflicts_eq (r : Registry) (key : Key) (api : String) :
    ∃ sanitizers conflicts, r.resolveConflicts key api = { r with sanitizers, conflicts } := by
  rcases resolveConflicts_cases r key api with ⟨-, h⟩ | h
  · exact ⟨_, _, h⟩
  · obtain ⟨sanitizers, hset⟩ := exists_setSanitizers_eq _ key _
    exact ⟨sanitizers, _, h.trans hset⟩

theorem sinks_resolveConflicts (r : Registry) (key : Key) (api : String) :
    (r.resolveConflicts key api).sinks = r.sinks := by
  obtain ⟨_, _, h⟩ := exists_resolveConflicts_eq r key api
  rw [h]

theorem sources_resolveConflicts (r : Registry) (key : Key) (api : String) :
    (r.resolveConflicts key api).sources = r.sources := by
  obtain ⟨_, _, h⟩ := exists_resolveConflicts_eq r key api
  rw [h]

theorem rulesOf_resolveConflicts : (r.resolveConflicts key api).rulesOf other =
    if other = key then left (r.sources.get? key) (r.rulesOf key) else r.rulesOf other := by
  rcases resolveConflicts_cases r key api with ⟨hunclashed, h⟩ | h
  · rw [h, hunclashed.left_eq_self]
    split
    · next he => rw [he]
    · rfl
  · rw [h, rulesOf_setSanitizers]
    rfl

theorem conflicts_resolveConflicts : (r.resolveConflicts key api).conflicts =
    r.conflicts ++ reported api (r.sources.get? key) (r.rulesOf key) := by
  rcases resolveConflicts_cases r key api with ⟨hunclashed, h⟩ | h
  · rw [h, hunclashed.reported_eq_nil, List.append_nil]
  · obtain ⟨_, hset⟩ := exists_setSanitizers_eq _ key _
    rw [h, hset]

theorem Tidy.resolveConflicts (h : r.Tidy) : (r.resolveConflicts key api).Tidy := by
  rcases resolveConflicts_cases r key api with ⟨-, hr⟩ | hr
  · rwa [hr]
  · rw [hr]
    exact Tidy.setSanitizers h

end Registry

/-! ### Declarations -/

/-- A role of a function, with its rule. -/
inductive Role where
  | source (rule : SourceRule)
  | sink (rule : SinkRule)
  | sanitizer (rule : SanitizerRule)
deriving DecidableEq, Repr

namespace Role

def source? : Role → Option SourceRule
  | source rule => some rule
  | _ => none

def sink? : Role → Option SinkRule
  | sink rule => some rule
  | _ => none

def sanitizer? : Role → Option SanitizerRule
  | sanitizer rule => some rule
  | _ => none

end Role

/-- A function is given a role. -/
structure Declaration where
  api : String
  role : Role
deriving DecidableEq, Repr

namespace Declaration

def key (d : Declaration) : Key := .text d.api

def rule? {α : Type} (part : Role → Option α) (key : Key) (d : Declaration) : Option α :=
  if key = d.key then part d.role else none

end Declaration

namespace Registry

variable {r : Registry} {d : Declaration} {key : Key}

def declare (r : Registry) (d : Declaration) : Registry :=
  match d.role with
  | .source rule => r.addSource d.key d.api rule
  | .sink rule => r.addSink d.key rule
  | .sanitizer rule => r.addSanitizer d.key d.api rule

/-- Nothing that is left clashes with the source of its function. -/
structure Settled (r : Registry) : Prop where
  tidy : r.Tidy
  unclashed : ∀ key, Unclashed (r.sources.get? key) (r.rulesOf key)

theorem settled_empty (canonicalized : OrderedSet Context) : (empty canonicalized).Settled :=
  ⟨nofun, nofun⟩

theorem get?_sources_declare (r : Registry) (d : Declaration) (key : Key) :
    (r.declare d).sources.get? key = (d.rule? Role.source? key).or (r.sources.get? key) := by
  obtain ⟨api, role⟩ := d
  unfold declare Declaration.rule?
  cases role with
  | source rule =>
    dsimp only [addSource]
    rw [sources_resolveConflicts]
    dsimp only
    rw [OrderedMap.get?_set]
    split <;> rfl
  | sink rule => simp [addSink, Role.source?]
  | sanitizer rule =>
    dsimp only [addSanitizer]
    rw [sources_resolveConflicts]
    simp [Role.source?]

theorem get?_sinks_declare (r : Registry) (d : Declaration) (key : Key) :
    (r.declare d).sinks.get? key = (d.rule? Role.sink? key).or (r.sinks.get? key) := by
  obtain ⟨api, role⟩ := d
  unfold declare Declaration.rule?
  cases role with
  | source rule =>
    dsimp only [addSource]
    rw [sinks_resolveConflicts]
    simp [Role.sink?]
  | sink rule =>
    dsimp only [addSink]
    rw [OrderedMap.get?_set]
    split <;> rfl
  | sanitizer rule =>
    dsimp only [addSanitizer]
    rw [sinks_resolveConflicts]
    simp [Role.sink?]

/-- **After a declaration what is left of a function's rules is what its source leaves.** -/
theorem Settled.rulesOf_declare (h : r.Settled) (d : Declaration) (key : Key) :
    (r.declare d).rulesOf key = left ((r.declare d).sources.get? key)
      (r.rulesOf key ++ (d.rule? Role.sanitizer? key).toList) := by
  have hleft := (h.unclashed key).left_eq_self
  rw [get?_sources_declare]
  obtain ⟨api, role⟩ := d
  unfold declare Declaration.rule?
  cases role with
  | source rule =>
    dsimp only [addSource]
    rw [rulesOf_resolveConflicts]
    by_cases he : key = Declaration.key ⟨api, .source rule⟩
    · rw [if_pos he, if_pos he, if_pos he, ← he]
      simp [Role.source?, Role.sanitizer?, rulesOf]
    · simpa [he, rulesOf] using hleft.symm
  | sink rule => simpa [addSink, Role.source?, Role.sanitizer?, rulesOf] using hleft.symm
  | sanitizer rule =>
    dsimp only [addSanitizer]
    rw [rulesOf_resolveConflicts]
    by_cases he : key = Declaration.key ⟨api, .sanitizer rule⟩
    · rw [if_pos he, if_pos he, if_pos he, ← he]
      simp [Role.source?, Role.sanitizer?, rulesOf, OrderedMap.getD_set]
    · simpa [he, rulesOf, OrderedMap.getD_set] using hleft.symm

/-- It records what then clashes. -/
theorem Settled.conflicts_declare (h : r.Settled) (d : Declaration) :
    (r.declare d).conflicts = r.conflicts ++ reported d.api ((r.declare d).sources.get? d.key)
      (r.rulesOf d.key ++ d.role.sanitizer?.toList) := by
  have hreported := (h.unclashed d.key).reported_eq_nil d.api
  rw [get?_sources_declare]
  obtain ⟨api, role⟩ := d
  unfold declare Declaration.rule?
  cases role with
  | source rule =>
    dsimp only [addSource]
    rw [conflicts_resolveConflicts]
    simp [Role.source?, Role.sanitizer?, rulesOf]
  | sink rule => simp [addSink, Role.source?, Role.sanitizer?, hreported]
  | sanitizer rule =>
    dsimp only [addSanitizer]
    rw [conflicts_resolveConflicts]
    simp [Role.source?, Role.sanitizer?, rulesOf, OrderedMap.getD_set]

theorem Settled.declare (h : r.Settled) (d : Declaration) : (r.declare d).Settled := by
  refine ⟨?_, fun key => ?_⟩
  · have htidy := h.tidy
    unfold Registry.declare
    cases d.role with
    | source rule => exact Tidy.resolveConflicts htidy
    | sink rule => exact htidy
    | sanitizer rule =>
      refine Tidy.resolveConflicts fun key => ?_
      dsimp only
      rw [OrderedMap.get?_set]
      split
      · simp
      · exact htidy key
  · rw [h.rulesOf_declare]
    exact unclashed_left

/-- **Every registry that is filled by declarations is settled.** -/
theorem Settled.foldl_declare (h : r.Settled) (ds : List Declaration) :
    (ds.foldl Registry.declare r).Settled := by
  induction ds generalizing r with
  | nil => exact h
  | cons d ds ih => exact ih (h.declare d)

end Registry

/-! ### Calls that register -/

/-- A call that registers a role of a function, with the values it is given. -/
inductive Registration where
  | source (api : String) (origin : Document) (context : Option Document)
  | sink (api : String) (contexts : Document) (args : Option Document)
  | sanitizer (api : String) (contexts : Option Document) (strength : Document)
deriving DecidableEq

namespace Registration

open Registry (contextsOf)

/-- The rule that a call states. -/
def read : Registration → Result Declaration
  | source api origin context => do
    let origin ← Origin.ofDocument origin
    let context ← (context.filter Document.isTruthy).mapM Context.ofDocument
    return ⟨api, .source ⟨origin, context⟩⟩
  | sink api contexts args => do
    let layers ← contextsOf contexts
    if layers.isEmpty then .error (.invalid (.sinkWithoutContext api))
    else
      let args ← (args.filter (fun d => !d.isNull)).mapM (fun d => do
        (← d.members).mapM Document.toWhole)
      return ⟨api, .sink ⟨layers, args⟩⟩
  | sanitizer api contexts strength => do
    let strength ← Strength.ofDocument strength
    let contexts ← match contexts.filter (fun d => !d.isNull) with
      | some d => contextsOf d
      | none => .ok []
    if contexts.isEmpty && strength ≠ .parameterization then
      .error (.invalid (.sanitizerWithoutContext api))
    else return ⟨api, .sanitizer ⟨.ofList contexts, strength⟩⟩

end Registration

namespace Registry

variable {r r' : Registry} {call : Registration} {calls : List Registration}

def register (r : Registry) : Registration → Result Registry
  | .source api origin context => r.registerSource (.text api) origin context
  | .sink api contexts args => r.registerSink (.text api) contexts args
  | .sanitizer api contexts strength => r.registerSanitizer (.text api) contexts strength

/-- A call that is refused leaves everything as it was. -/
def attempt (r : Registry) (call : Registration) : Registry :=
  match r.register call with
  | .ok r' => r'
  | .error _ => r

def attempts (r : Registry) (calls : List Registration) : Registry := calls.foldl attempt r

/-- Calls of which none is refused. -/
def registerAll (r : Registry) (calls : List Registration) : Result Registry :=
  calls.foldlM register r

/-- **Whether a call is refused does not depend on what is registered**, and otherwise it adds its rule. -/
theorem register_eq (r : Registry) (call : Registration) :
    r.register call = call.read.map r.declare := by
  cases call with
  | source api origin context =>
    dsimp only [register, registerSource, Registration.read]
    rw [Result.map_bind]
    refine bind_congr fun origin => ?_
    rw [Result.map_bind]
    rfl
  | sink api contexts args =>
    dsimp only [register, registerSink, Registration.read]
    rw [Result.map_bind]
    refine bind_congr fun layers => ?_
    split
    · rfl
    · rw [Result.map_bind]
      rfl
  | sanitizer api contexts strength =>
    dsimp only [register, registerSanitizer, Registration.read]
    rw [Result.map_bind]
    refine bind_congr fun strength => ?_
    cases contexts.filter (fun d => !d.isNull) with
    | none =>
      dsimp only [bind, Except.bind]
      split <;> rfl
    | some d =>
      dsimp only
      rw [Result.map_bind]
      refine bind_congr fun contexts => ?_
      split <;> rfl

def declared (calls : List Registration) : List Declaration :=
  calls.filterMap fun call => call.read.toOption

/-- **What some calls come to is what the rules of those that are not refused come to.** -/
theorem attempts_eq (r : Registry) (calls : List Registration) :
    r.attempts calls = (declared calls).foldl declare r := by
  induction calls generalizing r with
  | nil => rfl
  | cons call calls ih =>
    rw [attempts, List.foldl_cons, ← attempts, ih, attempt, register_eq, declared, declared,
      List.filterMap_cons]
    cases call.read <;> rfl

theorem registerAll_eq_ok_iff : r.registerAll calls = .ok r' ↔
    (∀ call ∈ calls, ∃ d, call.read = .ok d) ∧ r' = r.attempts calls := by
  induction calls generalizing r with
  | nil =>
    rw [registerAll, attempts, List.foldlM_nil, List.foldl_nil]
    exact ⟨fun h => ⟨fun _ h => absurd h List.not_mem_nil, (Except.ok.inj h).symm⟩, fun h => h.2 ▸ rfl⟩
  | cons call calls ih =>
    rw [registerAll, List.foldlM_cons, attempts, List.foldl_cons, attempt, register_eq]
    cases hread : call.read with
    | error fault =>
      refine iff_of_false (fun h => nomatch h) fun h => ?_
      obtain ⟨d, hd⟩ := h.1 call List.mem_cons_self
      rw [hread] at hd
      cases hd
    | ok d =>
      refine Iff.trans ih (and_congr_left fun _ => ?_)
      rw [List.forall_mem_cons]
      exact (and_iff_right ⟨d, hread⟩).symm

end Registry

end TaintFlow
