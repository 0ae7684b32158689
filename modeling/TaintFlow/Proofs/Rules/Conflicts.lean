import Mathlib.Data.List.Induction
import Mathlib.Data.List.Perm.Basic
import TaintFlow.Neutralization
import TaintFlow.Proofs.Rules.Registration
import TaintFlow.Proofs.Summary.Rounds

/-!
# Conflicting rules

A function that is registered as a source is not trusted as a sanitizer for the context of the source: no
rule for this context is left, in whatever order the roles were registered and whatever calls were refused.
Parameterization is trusted in any context, though, so a rule of this strength that is left for other
contexts still clears the value (`failsClosed_attempts_iff`).

As long as a function is registered as a source once, the order in which roles are registered is of no
consequence (`registerAll_reordered`): what is left of the sanitizer rules of a function is what the source
leaves of them (`rulesOf_filled`), and each rule is reported once for each context that it lost
(`conflicts_filled`).
-/

namespace TaintFlow

/-! ### Steps that have nothing to do with a context -/

/-- Steps of which none has to do with a context are judged, and do not neutralize it. -/
theorem Verdict.exists_judge?_of_uncovered {steps : List Step} {context : Composite}
    (hplain : ∀ s ∈ steps, s.strength ≠ .parameterization)
    (huncovered : ∀ s ∈ steps, ∀ layer ∈ context.layers, s.covers layer = false)
    (required : Context → Bool) (label : Label) :
    ∃ v, judge? required steps context label = .ok v ∧ v.classification ≠ .sufficient := by
  have hany : steps.any (fun s => context.layers.any s.covers) = false := by
    rw [List.any_eq_false]
    intro s hs
    rw [List.any_eq_true]
    rintro ⟨layer, hlayer, hcovers⟩
    rw [huncovered s hs layer hlayer] at hcovers
    cases hcovers
  have hfind : steps.find? (fun s => s.strength = .parameterization) = none :=
    List.find?_eq_none.2 fun s hs => by simpa using hplain s hs
  refine ⟨judge required steps context label, ?_, ?_⟩
  · simp [judge?, hany]
  · unfold judge
    rw [hfind]
    dsimp only
    rw [hany, if_neg Bool.false_ne_true]
    split <;> simp

theorem Verdict.judge?_of_parameterization {s : Step} (h : s.strength = .parameterization)
    (required : Context → Bool) (context : Composite) (label : Label) :
    judge? required [s] context label =
      .ok ⟨.sufficient, "parameterized by " ++ s.api.toDocument.asText, [s]⟩ := by
  simp [judge?, judge, h]

def Step.Applies (api : String) (rules : List SanitizerRule) (s : Step) : Prop :=
  s.api = .text api ∧ ∃ rule ∈ rules, s.contexts = rule.contexts ∧ s.strength = rule.strength

namespace Registry

variable {r r' : Registry} {api : String} {source : SourceRule}

/-! ### What a function that is a source is trusted for -/

/-- A function that is a source has no sanitizer rule if the source has no context, and if it has one, then
no path on which only the function's own rules are applied is neutralized for this context. -/
def FailsClosed (r : Registry) (api : String) (source : SourceRule) : Prop :=
  match source.context with
  | none => r.sanitizers.get? (.text api) = none
  | some c => ∀ (steps : List Step) (label : Label),
      (∀ s ∈ steps, s.Applies api (r.rulesOf (.text api))) → label.isConcrete = true →
        ∃ v, Verdict.judge? r.requiresCanonicalization steps ⟨c, []⟩ label = .ok v ∧
          v.classification ≠ .sufficient

theorem not_failsClosed_of_parameterization {c : Context} {rule : SanitizerRule}
    (hcontext : source.context = some c) (hrule : rule ∈ r.rulesOf (.text api))
    (hstrength : rule.strength = .parameterization) : ¬ r.FailsClosed api source := by
  intro hclosed
  unfold FailsClosed at hclosed
  rw [hcontext] at hclosed
  let s : Step := ⟨.text "", .text api, rule.contexts, rule.strength, .whole 1⟩
  have happlies : s.Applies api (r.rulesOf (.text api)) := ⟨rfl, rule, hrule, rfl, rfl⟩
  obtain ⟨v, hv, hne⟩ := hclosed [s] (.source .storedRecord (.text "") none)
    (List.forall_mem_singleton.2 happlies) rfl
  rw [Verdict.judge?_of_parameterization hstrength] at hv
  cases hv
  exact hne rfl

theorem Settled.rulesOf_eq_nil (h : r.Settled) (hsource : r.sources.get? (.text api) = some source)
    (hcontext : source.context = none) : r.rulesOf (.text api) = [] := by
  refine List.eq_nil_iff_forall_not_mem.2 fun rule hrule => ?_
  have hunclashed := h.unclashed (.text api) source hsource rule hrule
  rw [hcontext] at hunclashed
  cases hunclashed

/-- In a settled registry no rule that is left is for the context of the source, so only a parameterization
can neutralize it. -/
theorem Settled.failsClosed_iff (h : r.Settled) (hsource : r.sources.get? (.text api) = some source) :
    r.FailsClosed api source ↔ ∀ rule ∈ r.rulesOf (.text api), rule.strength ≠ .parameterization := by
  cases hcontext : source.context with
  | none =>
    have hnil := h.rulesOf_eq_nil hsource hcontext
    refine iff_of_true ?_ (by simp [hnil])
    unfold FailsClosed
    rw [hcontext]
    dsimp only
    rw [h.tidy.get?_sanitizers, if_pos hnil]
  | some c =>
    constructor
    · exact fun hclosed rule hrule hstrength =>
        not_failsClosed_of_parameterization hcontext hrule hstrength hclosed
    · intro hplain
      unfold FailsClosed
      rw [hcontext]
      intro steps label hsteps _
      have hunclashed := h.unclashed (.text api) source hsource
      rw [hcontext] at hunclashed
      refine Verdict.exists_judge?_of_uncovered (fun s hs => ?_) (fun s hs layer hlayer => ?_) _ _
      · obtain ⟨-, rule, hrule, -, hstrength⟩ := hsteps s hs
        exact hstrength ▸ hplain rule hrule
      · obtain ⟨-, rule, hrule, hcontexts, -⟩ := hsteps s hs
        obtain rfl : layer = c := List.mem_singleton.1 hlayer
        unfold Step.covers
        rw [hcontexts]
        exact hunclashed rule hrule

/-- **Conflicts fail closed exactly where no parameterization is left**, after any calls. -/
theorem failsClosed_attempts_iff (canonicalized : OrderedSet Context) (calls : List Registration)
    (hsource : ((empty canonicalized).attempts calls).sources.get? (.text api) = some source) :
    ((empty canonicalized).attempts calls).FailsClosed api source ↔
      ∀ rule ∈ ((empty canonicalized).attempts calls).rulesOf (.text api),
        rule.strength ≠ .parameterization := by
  refine Settled.failsClosed_iff ?_ hsource
  rw [attempts_eq]
  exact (settled_empty canonicalized).foldl_declare (declared calls)

/-- An escaping function that reads a record, registered as a source for one context and then for another;
two calls are refused. -/
def escapeCalls : List Registration :=
  [.sanitizer "escape" (some (.list [.text "html-body", .text "css-value", .text "log-record"]))
      (.text "whitelist"),
    .source "escape" (.text "cookie") (some (.text "css-value")),
    .sink "escape" (.list []) none,
    .source "escape" (.text "cookie") (some (.text "nowhere")),
    .source "escape" (.text "stored-record") (some (.text "html-body"))]

theorem failsClosed_escape :
    ((empty defaultCanonicalized).attempts escapeCalls).sources.get? (.text "escape") =
        some ⟨.storedRecord, some .htmlBody⟩ ∧
      ((empty defaultCanonicalized).attempts escapeCalls).rulesOf (.text "escape") =
        [⟨.singleton .logRecord, .whitelist⟩] ∧
      ((empty defaultCanonicalized).attempts escapeCalls).FailsClosed "escape"
        ⟨.storedRecord, some .htmlBody⟩ := by
  have hsource : ((empty defaultCanonicalized).attempts escapeCalls).sources.get? (.text "escape") =
      some ⟨.storedRecord, some .htmlBody⟩ := by decide +kernel
  have hrules : ((empty defaultCanonicalized).attempts escapeCalls).rulesOf (.text "escape") =
      [⟨.singleton .logRecord, .whitelist⟩] := by decide +kernel
  refine ⟨hsource, hrules, (failsClosed_attempts_iff _ _ hsource).2 ?_⟩
  rw [hrules]
  decide

/-- A function that parameterizes in two contexts and reads a record in one of them. -/
def bindCalls : List Registration :=
  [.sanitizer "bind" (some (.list [.text "html-body", .text "css-value"])) (.text "parameterization"),
    .source "bind" (.text "stored-record") (some (.text "html-body"))]

/-- The conflict is reported, and still the function clears a record for the context that it lost. -/
theorem not_failsClosed_bind :
    ((empty defaultCanonicalized).attempts bindCalls).sources.get? (.text "bind") =
        some ⟨.storedRecord, some .htmlBody⟩ ∧
      ((empty defaultCanonicalized).attempts bindCalls).conflicts =
        [⟨"bind", "html-body", "stored-record"⟩] ∧
      ¬ ((empty defaultCanonicalized).attempts bindCalls).FailsClosed "bind"
        ⟨.storedRecord, some .htmlBody⟩ := by
  have hrule : (⟨.singleton .cssValue, .parameterization⟩ : SanitizerRule) ∈
      ((empty defaultCanonicalized).attempts bindCalls).rulesOf (.text "bind") := by decide +kernel
  exact ⟨by decide +kernel, by decide +kernel, not_failsClosed_of_parameterization rfl hrule rfl⟩

/-! ### What is left when each function is a source at most once -/

/-- The rules that some declarations give a function in one of the roles. -/
def given {α : Type} (part : Role → Option α) (ds : List Declaration) (key : Key) : List α :=
  ds.filterMap (Declaration.rule? part key)

variable {ds ds' : List Declaration} {d : Declaration} {key : Key} {canonicalized : OrderedSet Context}

theorem given_concat {α : Type} (part : Role → Option α) (ds : List Declaration) (d : Declaration)
    (key : Key) : given part (ds ++ [d]) key = given part ds key ++ (d.rule? part key).toList := by
  rw [given, List.filterMap_append, ← given]
  cases h : d.rule? part key <;> simp [h]

/-- A registry that is filled by declarations. -/
def filled (canonicalized : OrderedSet Context) (ds : List Declaration) : Registry :=
  ds.foldl declare (empty canonicalized)

theorem filled_concat : filled canonicalized (ds ++ [d]) = (filled canonicalized ds).declare d := by
  simp [filled]

theorem settled_filled (canonicalized : OrderedSet Context) (ds : List Declaration) :
    (filled canonicalized ds).Settled :=
  (settled_empty canonicalized).foldl_declare ds

theorem get?_sources_filled : (filled canonicalized ds).sources.get? key =
    (given Role.source? ds key).getLast? := by
  induction ds using List.reverseRecOn with
  | nil => rfl
  | append_singleton ds d ih =>
    rw [filled_concat, get?_sources_declare, ih, given_concat, List.getLast?_append]
    cases d.rule? Role.source? key <;> simp

theorem get?_sinks_filled : (filled canonicalized ds).sinks.get? key =
    (given Role.sink? ds key).getLast? := by
  induction ds using List.reverseRecOn with
  | nil => rfl
  | append_singleton ds d ih =>
    rw [filled_concat, get?_sinks_declare, ih, given_concat, List.getLast?_append]
    cases d.rule? Role.sink? key <;> simp

def OneSource (ds : List Declaration) : Prop := ∀ key, (given Role.source? ds key).length ≤ 1

theorem OneSource.of_concat (h : OneSource (ds ++ [d])) : OneSource ds := by
  intro key
  have hlength := h key
  rw [given_concat, List.length_append] at hlength
  omega

/-- A declaration leaves the source of a function as it is, or there was none. -/
theorem OneSource.source_cases (h : OneSource (ds ++ [d])) (canonicalized : OrderedSet Context)
    (key : Key) :
    (filled canonicalized ds).sources.get? key = none ∨
      (filled canonicalized (ds ++ [d])).sources.get? key =
        (filled canonicalized ds).sources.get? key := by
  have hlength := h key
  rw [filled_concat, get?_sources_declare, get?_sources_filled]
  rw [given_concat, List.length_append] at hlength
  cases hrule : d.rule? Role.source? key with
  | none => exact Or.inr (by simp)
  | some source =>
    rw [hrule, Option.toList_some, List.length_singleton] at hlength
    have hnil : given Role.source? ds key = [] := List.length_eq_zero_iff.1 (by omega)
    exact Or.inl (by simp [hnil])

/-- **What is left of a function's sanitizer rules is what its source leaves of all of them.** -/
theorem rulesOf_filled (h : OneSource ds) : (filled canonicalized ds).rulesOf key =
    left ((filled canonicalized ds).sources.get? key) (given Role.sanitizer? ds key) := by
  induction ds using List.reverseRecOn with
  | nil => rfl
  | append_singleton ds d ih =>
    have hsettled := settled_filled canonicalized ds
    rw [filled_concat, hsettled.rulesOf_declare, ← filled_concat, ih h.of_concat, given_concat]
    -- a source that is new found the rules untouched, any other one had reduced them already
    rcases h.source_cases canonicalized key with hnone | hsame
    · rw [hnone]
      rfl
    · rw [hsame, left_append, left_append, unclashed_left.left_eq_self]

/-- The conflicts that a declared sanitizer rule has with the source of its function. -/
def conflictsWith (sources : Key → Option SourceRule) (d : Declaration) : List RuleConflict :=
  reported d.api (sources d.key) d.role.sanitizer?.toList

/-- A new source clashes with what was declared for its function before. -/
theorem flatMap_conflictsWith_perm {sources sources' : Key → Option SourceRule} {key : Key}
    (hothers : ∀ other, other ≠ key → sources' other = sources other) (hnone : sources key = none)
    (hkey : key = .text api) (ds : List Declaration) :
    (ds.flatMap (conflictsWith sources) ++
      reported api (sources' key) (given Role.sanitizer? ds key)).Perm
        (ds.flatMap (conflictsWith sources')) := by
  have hgiven : reported api (sources' key) (given Role.sanitizer? ds key) =
      ds.flatMap fun d => reported api (sources' key) (d.rule? Role.sanitizer? key).toList := by
    rw [given, List.filterMap_eq_flatMap_toList]
    cases sources' key with
    | none => simp [reported]
    | some source => exact List.flatMap_assoc
  have hsplit : ∀ d : Declaration, conflictsWith sources' d = conflictsWith sources d ++
      reported api (sources' key) (d.rule? Role.sanitizer? key).toList := by
    intro d
    unfold conflictsWith Declaration.rule?
    by_cases he : key = d.key
    · rw [if_pos he, ← he, hnone]
      obtain rfl : api = d.api := Key.text.inj (hkey.symm.trans he)
      rfl
    · rw [if_neg he, hothers d.key fun h => he h.symm, Option.toList_none]
      cases sources' key <;> simp [reported]
  rw [hgiven, funext hsplit]
  exact List.flatMap_append_perm ds _ _

/-- **Every sanitizer rule is reported once for each context that it lost.** -/
theorem conflicts_filled (h : OneSource ds) : (filled canonicalized ds).conflicts.Perm
    (ds.flatMap (conflictsWith (filled canonicalized ds).sources.get?)) := by
  induction ds using List.reverseRecOn with
  | nil => exact .refl _
  | append_singleton ds d ih =>
    have hsettled := settled_filled canonicalized ds
    have hconflicts := hsettled.conflicts_declare d
    rw [← filled_concat] at hconflicts
    rw [hconflicts, reported_append, List.flatMap_append, List.flatMap_singleton, ← List.append_assoc]
    refine .append_right _ ?_
    refine ((ih h.of_concat).append_right _).trans ?_
    have hothers : ∀ other, other ≠ d.key → (filled canonicalized (ds ++ [d])).sources.get? other =
        (filled canonicalized ds).sources.get? other := by
      intro other hne
      rw [filled_concat, get?_sources_declare, Declaration.rule?, if_neg hne, Option.none_or]
    -- a source that is new clashes with all that was declared for its function, any other one with
    -- nothing that is left
    rcases h.source_cases canonicalized d.key with hnone | hsame
    · have hrules : (filled canonicalized ds).rulesOf d.key = given Role.sanitizer? ds d.key := by
        rw [rulesOf_filled h.of_concat, hnone]
        rfl
      rw [hrules]
      exact flatMap_conflictsWith_perm hothers hnone rfl ds
    · have hsources : (filled canonicalized (ds ++ [d])).sources.get? =
          (filled canonicalized ds).sources.get? := by
        funext other
        by_cases he : other = d.key
        · rw [he, hsame]
        · exact hothers other he
      rw [hsources, (hsettled.unclashed d.key).reported_eq_nil, List.append_nil]

/-- Declarations that give every function the same rules in the same order fill the same registry. -/
theorem OneSource.filled_eq (h : OneSource ds) (canonicalized : OrderedSet Context) (hperm : ds'.Perm ds)
    (hsource : ∀ key, given Role.source? ds' key = given Role.source? ds key)
    (hsink : ∀ key, given Role.sink? ds' key = given Role.sink? ds key)
    (hsanitizer : ∀ key, given Role.sanitizer? ds' key = given Role.sanitizer? ds key) :
    (filled canonicalized ds').sources = (filled canonicalized ds).sources ∧
      (filled canonicalized ds').sinks = (filled canonicalized ds).sinks ∧
      (filled canonicalized ds').sanitizers = (filled canonicalized ds).sanitizers ∧
      (filled canonicalized ds').conflicts.Perm (filled canonicalized ds).conflicts := by
  have h' : OneSource ds' := fun key => (hsource key).symm ▸ h key
  have hsources : (filled canonicalized ds').sources = (filled canonicalized ds).sources := by
    refine OrderedMap.eq_of_get?_eq fun key => ?_
    rw [get?_sources_filled, get?_sources_filled, hsource]
  refine ⟨hsources, ?_, ?_, ?_⟩
  · refine OrderedMap.eq_of_get?_eq fun key => ?_
    rw [get?_sinks_filled, get?_sinks_filled, hsink]
  · have hrules : ∀ key,
        (filled canonicalized ds').rulesOf key = (filled canonicalized ds).rulesOf key := by
      intro key
      rw [rulesOf_filled h', rulesOf_filled h, hsources, hsanitizer]
    refine OrderedMap.eq_of_get?_eq fun key => ?_
    rw [(settled_filled _ _).tidy.get?_sanitizers, (settled_filled _ _).tidy.get?_sanitizers, hrules]
  · refine (conflicts_filled h').trans (.trans ?_ (conflicts_filled h).symm)
    rw [hsources]
    exact hperm.flatMap_right _

end Registry

/-! ### Registering in another order -/

/-- What a call or a declaration is about. -/
inductive RoleKind where
  | source
  | sink
  | sanitizer
deriving DecidableEq, Repr

def Role.kind : Role → RoleKind
  | source _ => .source
  | sink _ => .sink
  | sanitizer _ => .sanitizer

theorem Role.kind_of_source? (role : Role) (rule : SourceRule) (h : role.source? = some rule) :
    role.kind = .source := by
  cases role <;> first | rfl | cases h

theorem Role.kind_of_sink? (role : Role) (rule : SinkRule) (h : role.sink? = some rule) :
    role.kind = .sink := by
  cases role <;> first | rfl | cases h

theorem Role.kind_of_sanitizer? (role : Role) (rule : SanitizerRule)
    (h : role.sanitizer? = some rule) : role.kind = .sanitizer := by
  cases role <;> first | rfl | cases h

namespace Registration

def api : Registration → String
  | source api _ _ => api
  | sink api _ _ => api
  | sanitizer api _ _ => api

def kind : Registration → RoleKind
  | source _ _ _ => .source
  | sink _ _ _ => .sink
  | sanitizer _ _ _ => .sanitizer

def isFor (kind : RoleKind) (api : String) (call : Registration) : Bool :=
  call.kind = kind ∧ call.api = api

theorem of_read {call : Registration} {d : Declaration} (h : call.read = .ok d) :
    d.api = call.api ∧ d.role.kind = call.kind := by
  cases call with
  | source api origin context =>
    obtain ⟨_, -, h⟩ := Result.exists_of_bind_eq_ok h
    obtain ⟨_, -, h⟩ := Result.exists_of_bind_eq_ok h
    cases h
    exact ⟨rfl, rfl⟩
  | sink api contexts args =>
    obtain ⟨_, -, h⟩ := Result.exists_of_bind_eq_ok h
    split at h
    · cases h
    · obtain ⟨_, -, h⟩ := Result.exists_of_bind_eq_ok h
      cases h
      exact ⟨rfl, rfl⟩
  | sanitizer api contexts strength =>
    obtain ⟨_, -, h⟩ := Result.exists_of_bind_eq_ok h
    dsimp only at h
    split at h <;> obtain ⟨_, -, h⟩ := Result.exists_of_bind_eq_ok h <;> split at h <;> cases h <;>
      exact ⟨rfl, rfl⟩

/-- A reordering of calls that keeps the order of the sanitizer rules of each function, and that of its sink
rules. -/
structure Reorders (calls calls' : List Registration) : Prop where
  perm : calls'.Perm calls
  sanitizers : ∀ api, calls'.filter (isFor .sanitizer api) = calls.filter (isFor .sanitizer api)
  sinks : ∀ api, calls'.filter (isFor .sink api) = calls.filter (isFor .sink api)

end Registration

namespace Registry

open Registration (isFor Reorders)

/-- What is given to a function in a role is read from the calls that register it in that role. -/
theorem given_declared {α : Type} {part : Role → Option α} {kind : RoleKind}
    (hpart : ∀ role a, part role = some a → role.kind = kind) (calls : List Registration) (api : String) :
    given part (declared calls) (.text api) =
      given part (declared (calls.filter (isFor kind api))) (.text api) := by
  unfold given declared
  rw [List.filterMap_filterMap, List.filterMap_filterMap, List.filterMap_filter]
  refine List.filterMap_congr fun call _ => ?_
  by_cases hfor : isFor kind api call = true
  · rw [if_pos hfor]
  · rw [if_neg hfor, Option.bind_eq_none_iff]
    intro d hd
    have hread : call.read = .ok d := by
      cases hcall : call.read with
      | error fault => simp [hcall, Except.toOption] at hd
      | ok found => simpa [hcall, Except.toOption] using hd
    obtain ⟨hapi, hkind⟩ := Registration.of_read hread
    unfold Declaration.rule?
    split
    · next hkey =>
      refine Option.eq_none_iff_forall_ne_some.2 fun a ha => hfor ?_
      have hname : api = d.api := Key.text.inj hkey
      simp [isFor, ← hapi, ← hkind, hpart d.role a ha, hname]
    · rfl

theorem given_of_not_text {α : Type} (part : Role → Option α) (ds : List Declaration) {key : Key}
    (h : ∀ api, key ≠ .text api) : given part ds key = [] :=
  List.filterMap_eq_nil_iff.2 fun d _ => if_neg (h d.api)

/-- Calls that register the same functions in one role in the same order give them the same rules. -/
theorem given_declared_eq {α : Type} {part : Role → Option α} {kind : RoleKind}
    (hpart : ∀ role a, part role = some a → role.kind = kind) {calls calls' : List Registration}
    (h : ∀ api, calls'.filter (isFor kind api) = calls.filter (isFor kind api)) (key : Key) :
    given part (declared calls') key = given part (declared calls) key := by
  by_cases htext : ∃ api, key = .text api
  · obtain ⟨api, rfl⟩ := htext
    rw [given_declared hpart, given_declared hpart calls, h]
  · have hnone := fun api he => htext ⟨api, he⟩
    rw [given_of_not_text part _ hnone, given_of_not_text part _ hnone]

variable {calls calls' : List Registration}

theorem oneSource_declared (h : ∀ api, (calls.filter (isFor .source api)).length ≤ 1) :
    OneSource (declared calls) := by
  intro key
  by_cases htext : ∃ api, key = .text api
  · obtain ⟨api, rfl⟩ := htext
    rw [given_declared Role.kind_of_source?]
    exact (List.length_filterMap_le _ _).trans ((List.length_filterMap_le _ _).trans (h api))
  · rw [given_of_not_text _ _ fun api he => htext ⟨api, he⟩]
    exact Nat.zero_le 1

/-- A single source call of a function stays where it is among those of the function. -/
theorem filter_source_eq (hperm : calls'.Perm calls)
    (h : ∀ api, (calls.filter (isFor .source api)).length ≤ 1) (api : String) :
    calls'.filter (isFor .source api) = calls.filter (isFor .source api) := by
  have hfilter := hperm.filter (isFor .source api)
  have hlength := h api
  cases hcalls : calls.filter (isFor .source api) with
  | nil => rwa [hcalls, List.perm_nil] at hfilter
  | cons call rest =>
    rw [hcalls, List.length_cons] at hlength
    obtain rfl : rest = [] := List.length_eq_zero_iff.1 (by omega)
    rwa [hcalls, List.perm_singleton] at hfilter

/-- **The order in which roles are registered does not matter** if no function is registered as a source
twice, and what is left of the sanitizer rules of a function is what its source leaves of them. -/
theorem registerAll_reordered {canonicalized : OrderedSet Context} {r : Registry}
    (hregister : (empty canonicalized).registerAll calls = .ok r)
    (honce : ∀ api, (calls.filter (isFor .source api)).length ≤ 1) (hreorder : Reorders calls calls') :
    (∃ r', (empty canonicalized).registerAll calls' = .ok r' ∧ r'.sources = r.sources ∧
      r'.sinks = r.sinks ∧ r'.sanitizers = r.sanitizers ∧ r'.conflicts.Perm r.conflicts) ∧
    ∀ api, r.rulesOf (.text api) = left (r.sources.get? (.text api))
      (given Role.sanitizer? (declared calls) (.text api)) := by
  obtain ⟨hread, rfl⟩ := registerAll_eq_ok_iff.1 hregister
  have hone := oneSource_declared honce
  have hfilled := hone.filled_eq canonicalized (hreorder.perm.filterMap _)
    (given_declared_eq Role.kind_of_source? (filter_source_eq hreorder.perm honce))
    (given_declared_eq Role.kind_of_sink? hreorder.sinks)
    (given_declared_eq Role.kind_of_sanitizer? hreorder.sanitizers)
  rw [attempts_eq]
  refine ⟨⟨_, registerAll_eq_ok_iff.2 ⟨fun call hcall => ?_, rfl⟩, ?_⟩, fun api => rulesOf_filled hone⟩
  · exact hread call (hreorder.perm.mem_iff.1 hcall)
  · rw [attempts_eq]
    exact hfilled

/-- Roles of two functions, the sources last. -/
def pageCalls : List Registration :=
  [.sanitizer "quote" (some (.list [.text "html-body", .text "url-parameter"])) (.text "whitelist"),
    .sanitizer "fetch" (some (.text "css-value")) (.text "blacklist"),
    .sink "fetch" (.text "url-parameter") none,
    .sanitizer "quote" (some (.text "html-body")) (.text "canonicalization"),
    .source "fetch" (.text "network-parameter") none,
    .source "quote" (.text "stored-record") (some (.text "html-body"))]

/-- The sources first, and the functions taking turns in another way. -/
def pageCallsReordered : List Registration :=
  [.source "quote" (.text "stored-record") (some (.text "html-body")),
    .source "fetch" (.text "network-parameter") none,
    .sink "fetch" (.text "url-parameter") none,
    .sanitizer "quote" (some (.list [.text "html-body", .text "url-parameter"])) (.text "whitelist"),
    .sanitizer "quote" (some (.text "html-body")) (.text "canonicalization"),
    .sanitizer "fetch" (some (.text "css-value")) (.text "blacklist")]

theorem reorders_pageCalls : Reorders pageCalls pageCallsReordered := by
  refine ⟨by decide +kernel, fun api => ?_, fun api => ?_⟩
  all_goals
    by_cases hquote : "quote" = api
    · subst hquote
      decide +kernel
    · by_cases hfetch : "fetch" = api
      · subst hfetch
        decide +kernel
      · simp [pageCalls, pageCallsReordered, isFor, Registration.kind, Registration.api, hquote, hfetch]

theorem registerAll_pageCalls :
    ∃ r, (empty defaultCanonicalized).registerAll pageCalls = .ok r ∧
      (∀ api, (pageCalls.filter (isFor .source api)).length ≤ 1) ∧
      Reorders pageCalls pageCallsReordered ∧
      (∃ r', (empty defaultCanonicalized).registerAll pageCallsReordered = .ok r' ∧
        r'.sanitizers = r.sanitizers ∧ r'.conflicts.Perm r.conflicts) ∧
      r.rulesOf (.text "quote") = [⟨.singleton .urlParameter, .whitelist⟩] := by
  have honce : ∀ api, (pageCalls.filter (isFor .source api)).length ≤ 1 := by
    intro api
    by_cases hquote : "quote" = api
    · subst hquote
      decide +kernel
    · by_cases hfetch : "fetch" = api
      · subst hfetch
        decide +kernel
      · simp [pageCalls, isFor, Registration.kind, Registration.api, hquote, hfetch]
  obtain ⟨r, hr, hleft⟩ := Result.exists_ok_of_any (r := (empty defaultCanonicalized).registerAll pageCalls)
    (p := fun r => r.rulesOf (.text "quote") = [⟨.singleton .urlParameter, .whitelist⟩]) (by decide +kernel)
  obtain ⟨⟨r', hr', -, -, hsanitizers, hconflicts⟩, -⟩ :=
    registerAll_reordered hr honce reorders_pageCalls
  exact ⟨r, hr, honce, reorders_pageCalls, ⟨r', hr', hsanitizers, hconflicts⟩, of_decide_eq_true hleft⟩

end Registry

end TaintFlow
