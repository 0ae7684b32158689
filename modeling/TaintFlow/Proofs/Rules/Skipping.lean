import TaintFlow.Proofs.Rules.Registration

/-!
# Rules that are skipped

A rule of a document either declares a role of a function or is refused, whatever is registered already
(`registerRule_eq`).  One that is refused is skipped as a whole, so what a document comes to is what the
rules that declare something come to (`foldl_after_eq`).

One value is not refused but stops the reading of the whole document: a number that is infinite among the
positions of the arguments that a sink checks (`stops_ofDocument_iff`).
-/

namespace TaintFlow

open Registry (contextsOf isSkipped)
open Result (Stops Yields)

/-! ### What a rule states -/

def Registration.ofDocument (rule : Document) : Result Registration := do
  let fields ← match rule with
    | .object fields => .ok fields
    | _ => .error .wrongKind
  let some api := fields.lookup "api" | .error (.missing "api")
  let some role := fields.lookup "role" | .error (.missing "role")
  let role := Text.lower role.asText
  let contexts := (fields.lookup "contexts").or (fields.lookup "context")
  if role == "source" then
    return .source api.asText ((fields.lookup "origin").getD (.text "unknown-external"))
      (fields.lookup "context")
  else if role == "sink" then
    match contexts.filter (fun d => !d.isNull) with
    | some contexts => return .sink api.asText contexts (fields.lookup "args")
    | none => .error (.invalid .sinkRuleWithoutContext)
  else if role == "sanitizer" then
    return .sanitizer api.asText contexts ((fields.lookup "strength").getD (.text "whitelist"))
  else .error (.invalid (.role (Text.quoted role)))

def Declaration.ofDocument (rule : Document) : Result Declaration := do
  (← Registration.ofDocument rule).read

/-- **A rule of a document is refused whatever is registered already, or adds what it declares.** -/
theorem Registry.registerRule_eq (r : Registry) (rule : Document) :
    r.registerRule rule = (Declaration.ofDocument rule).map r.declare := by
  have hcall : r.registerRule rule = Registration.ofDocument rule >>= r.register := by
    unfold registerRule Registration.ofDocument
    cases rule with
    | object fields =>
      simp only [Result.ok_bind]
      cases fields.lookup "api" with
      | none => rfl
      | some api =>
        cases fields.lookup "role" with
        | none => rfl
        | some role =>
          dsimp only
          split
          · rfl
          · split
            · cases ((fields.lookup "contexts").or (fields.lookup "context")).filter
                (fun d => !d.isNull) <;> rfl
            · split <;> rfl
    | _ => rfl
  rw [hcall, Declaration.ofDocument, Result.map_bind]
  exact bind_congr fun call => register_eq r call

theorem Registry.forall_registerRule_iff {rule : Document} :
    (∀ r : Registry, ∃ fault, r.registerRule rule = .error fault) ↔
      ∃ fault, Declaration.ofDocument rule = .error fault := by
  simp only [registerRule_eq]
  cases Declaration.ofDocument rule with
  | ok d => exact iff_of_false (fun h => nomatch h (empty ∅)) nofun
  | error fault => exact iff_of_true (fun _ => ⟨fault, rfl⟩) ⟨fault, rfl⟩

/-! ### Why a rule is refused -/

/-- A sink rule with an infinite number among the arguments that are checked, behind numbers only. -/
def Document.ChecksInfinity (rule : Document) : Prop :=
  ∃ api contexts args, Registration.ofDocument rule = .ok (.sink api contexts (some args)) ∧
    (∃ layers, contextsOf contexts = .ok layers ∧ layers ≠ []) ∧
    ∃ before x after negative, args.members = .ok (before ++ .real x :: after) ∧
      (∀ d ∈ before, ∃ n, d.toWhole = .ok n) ∧ Binary.ofFloat x = .infinite negative

/-- A fault for which a rule is skipped. -/
def Fault.Skipped (fault : Fault) : Prop := isSkipped fault = true

def Fault.Infinite (fault : Fault) : Prop := fault = .overflow .infiniteAsWhole

/-- What a rule can be refused for. -/
def Fault.Refused (fault : Fault) : Prop := fault.Skipped ∨ fault.Infinite

theorem Fault.Skipped.not_infinite {fault : Fault} (h : fault.Skipped) : ¬ fault.Infinite := by
  rintro rfl
  cases h

section Faults

variable {α β : Type} {r : Result α}

/-- A step that can only be refused. -/
def Result.Skips (r : Result α) : Prop := Yields Fault.Skipped (fun _ => True) r

@[simp] theorem Result.skips_ok (a : α) : Result.Skips (.ok a) := trivial

@[simp] theorem Result.skips_pure (a : α) : Result.Skips (pure a) := trivial

@[simp] theorem Result.skips_error_iff {fault : Fault} :
    Result.Skips (.error fault : Result α) ↔ isSkipped fault = true := Iff.rfl

theorem Result.Skips.bind {f : α → Result β} (hr : r.Skips) (hf : ∀ a, (f a).Skips) : (r >>= f).Skips :=
  Yields.bind hr fun a _ => hf a

theorem Result.Skips.not_stops (h : r.Skips) : ¬ Stops Fault.Infinite r :=
  Yields.not_stops h fun _ => Fault.Skipped.not_infinite

theorem Result.skips_mapM {f : α → Result β} {l : List α} (h : ∀ a ∈ l, (f a).Skips) : (l.mapM f).Skips :=
  (Result.yields_mapM h).forget

end Faults

namespace Document

theorem skips_members (d : Document) : d.members.Skips := by
  cases d <;> simp [members, isSkipped]

theorem skips_toWhole_or (d : Document) :
    d.toWhole.Skips ∨ ∃ x negative, d = .real x ∧ Binary.ofFloat x = .infinite negative := by
  cases d with
  | real x =>
    unfold toWhole
    dsimp only
    cases hx : Binary.ofFloat x with
    | nan => exact Or.inl rfl
    | infinite negative => exact Or.inr ⟨x, negative, rfl, hx⟩
    | finite negative m q => exact Or.inl (Result.skips_ok _)
  | text s =>
    left
    change (wholeIn s).Skips
    unfold wholeIn
    split <;> simp [isSkipped]
  | _ => simp [toWhole, isSkipped]

theorem refuses_toWhole (d : Document) : Yields Fault.Refused (fun _ => True) d.toWhole := by
  rcases d.skips_toWhole_or with h | ⟨x, negative, rfl, hx⟩
  · exact h.mono fun _ => Or.inl
  · unfold toWhole
    dsimp only
    rw [hx]
    exact Or.inr rfl

/-- Only a number that is infinite can be read as no whole number at all. -/
theorem stops_toWhole_iff {d : Document} :
    Stops Fault.Infinite d.toWhole ↔ ∃ x negative, d = .real x ∧ Binary.ofFloat x = .infinite negative := by
  refine ⟨fun h => d.skips_toWhole_or.resolve_left fun hskips => hskips.not_stops h, ?_⟩
  rintro ⟨x, negative, rfl, hx⟩
  unfold toWhole
  dsimp only
  rw [hx]
  exact ⟨_, rfl, rfl⟩

/-- A list of positions cannot be read at all if the first of them that is no number is infinite. -/
theorem stops_positions_iff {d : Document} :
    Stops Fault.Infinite (d.members >>= fun ds => ds.mapM toWhole) ↔
      ∃ before x after negative, d.members = .ok (before ++ .real x :: after) ∧
        (∀ d ∈ before, ∃ n, d.toWhole = .ok n) ∧ Binary.ofFloat x = .infinite negative := by
  rw [Result.stops_bind_iff, or_iff_right d.skips_members.not_stops]
  simp only [Result.stops_mapM_iff, stops_toWhole_iff]
  constructor
  · rintro ⟨_, hd, before, _, after, rfl, hbefore, x, negative, rfl, hx⟩
    exact ⟨before, x, after, negative, hd, hbefore, hx⟩
  · rintro ⟨before, x, after, negative, hd, hbefore, hx⟩
    exact ⟨_, hd, before, _, after, rfl, hbefore, x, negative, rfl, hx⟩

theorem refuses_positions (d : Document) :
    Yields Fault.Refused (fun _ => True) (d.members >>= fun ds => ds.mapM toWhole) := by
  refine (d.skips_members.mono fun _ => Or.inl).bind fun ds _ => ?_
  exact (Result.yields_mapM fun d _ => d.refuses_toWhole).forget

end Document

theorem Context.skips_ofDocument (d : Document) : (Context.ofDocument d).Skips := by
  unfold Context.ofDocument
  split <;> simp [isSkipped]

theorem Origin.skips_ofDocument (d : Document) : (Origin.ofDocument d).Skips := by
  unfold Origin.ofDocument
  split <;> simp [isSkipped]

theorem Strength.skips_ofDocument (d : Document) : (Strength.ofDocument d).Skips := by
  unfold Strength.ofDocument
  dsimp only
  split <;> simp [isSkipped]

theorem Registry.skips_contextsOf (d : Document) : (contextsOf d).Skips := by
  have hall : ∀ ds, (Context.ofDocuments ds).Skips := fun ds =>
    Result.skips_mapM fun d _ => Context.skips_ofDocument d
  unfold contextsOf
  split
  · exact hall _
  · exact Result.Skips.bind (Document.skips_members _) hall

namespace Registration

theorem skips_ofDocument (rule : Document) : (Registration.ofDocument rule).Skips := by
  unfold Registration.ofDocument
  cases rule with
  | object fields =>
    simp only [Result.ok_bind]
    repeat' first | split | simp [isSkipped]
  | _ => exact Result.skips_error_iff.2 rfl

theorem skips_read_source (api : String) (origin : Document) (context : Option Document) :
    (read (source api origin context)).Skips := by
  refine (Origin.skips_ofDocument origin).bind fun origin => ?_
  exact Yields.bind (Result.yields_mapM_option fun d _ => Context.skips_ofDocument d) fun _ _ => trivial

theorem skips_read_sanitizer (api : String) (contexts : Option Document) (strength : Document) :
    (read (sanitizer api contexts strength)).Skips := by
  refine (Strength.skips_ofDocument strength).bind fun strength => ?_
  cases contexts.filter (fun d => !d.isNull) with
  | none =>
    dsimp only
    rw [Result.ok_bind]
    split <;> simp [isSkipped]
  | some d =>
    refine (Registry.skips_contextsOf d).bind fun contexts => ?_
    dsimp only
    split <;> simp [isSkipped]

/-- A sink is refused unless one of the arguments that it checks is infinite. -/
theorem stops_read_sink_iff {api : String} {contexts : Document} {args : Option Document} :
    Stops Fault.Infinite (read (sink api contexts args)) ↔
      (∃ layers, contextsOf contexts = .ok layers ∧ layers ≠ []) ∧
        ∃ d ∈ args, Stops Fault.Infinite (d.members >>= fun ds => ds.mapM Document.toWhole) := by
  have hargs : Stops Fault.Infinite ((args.filter (fun d => !d.isNull)).mapM fun d => do
      (← d.members).mapM Document.toWhole) ↔
        ∃ d ∈ args, Stops Fault.Infinite (d.members >>= fun ds => ds.mapM Document.toWhole) := by
    simp only [Result.stops_mapM_option_iff, Option.mem_filter_iff]
    refine exists_congr fun d => ⟨fun h => ⟨h.1.1, h.2⟩, fun h => ⟨⟨h.1, ?_⟩, h.2⟩⟩
    cases d with
    | null => exact absurd h.2 (Result.skips_error_iff.2 rfl).not_stops
    | _ => rfl
  dsimp only [read]
  rw [Result.stops_bind_iff, or_iff_right (Registry.skips_contextsOf contexts).not_stops]
  constructor
  · rintro ⟨layers, hlayers, h⟩
    split at h
    · exact absurd h (Result.skips_error_iff.2 rfl).not_stops
    · next hempty =>
      rw [Result.stops_bind_iff, or_iff_left] at h
      · exact ⟨⟨layers, hlayers, by simpa using hempty⟩, hargs.1 h⟩
      · rintro ⟨_, -, h⟩
        exact Result.not_stops_ok _ h
  · rintro ⟨⟨layers, hlayers, hne⟩, h⟩
    refine ⟨layers, hlayers, ?_⟩
    rw [if_neg (by simpa using hne), Result.stops_bind_iff]
    exact Or.inl (hargs.2 h)

theorem refuses_read (call : Registration) : Yields Fault.Refused (fun _ => True) call.read := by
  cases call with
  | source api origin context => exact (skips_read_source api origin context).mono fun _ => Or.inl
  | sanitizer api contexts strength =>
    exact (skips_read_sanitizer api contexts strength).mono fun _ => Or.inl
  | sink api contexts args =>
    refine ((Registry.skips_contextsOf contexts).mono fun _ => Or.inl).bind fun layers _ => ?_
    split
    · exact Or.inl rfl
    · exact (Result.yields_mapM_option fun d _ => d.refuses_positions).bind fun _ _ => trivial

end Registration

namespace Declaration

variable {rule : Document}

/-- **Whatever a rule says, it is refused, or an argument that it checks is infinite.** -/
theorem refuses_ofDocument (rule : Document) :
    Yields Fault.Refused (fun _ => True) (Declaration.ofDocument rule) :=
  ((Registration.skips_ofDocument rule).mono fun _ => Or.inl).bind fun call _ => call.refuses_read

theorem stops_ofDocument_iff :
    Stops Fault.Infinite (Declaration.ofDocument rule) ↔ rule.ChecksInfinity := by
  unfold Declaration.ofDocument
  rw [Result.stops_bind_iff, or_iff_right (Registration.skips_ofDocument rule).not_stops]
  constructor
  · rintro ⟨call, hcall, h⟩
    cases call with
    | source api origin context =>
      exact absurd h (Registration.skips_read_source api origin context).not_stops
    | sanitizer api contexts strength =>
      exact absurd h (Registration.skips_read_sanitizer api contexts strength).not_stops
    | sink api contexts args =>
      obtain ⟨hlayers, d, rfl, hargs⟩ := Registration.stops_read_sink_iff.1 h
      exact ⟨api, contexts, d, hcall, hlayers, Document.stops_positions_iff.1 hargs⟩
  · rintro ⟨api, contexts, args, hcall, hlayers, hargs⟩
    exact ⟨_, hcall,
      Registration.stops_read_sink_iff.2 ⟨hlayers, args, rfl, Document.stops_positions_iff.2 hargs⟩⟩

end Declaration

/-! ### Adding rules -/

namespace Registry

variable {loaded : Loaded} {rule : Nat × Document} {rules : List Document}

/-- What a rule leaves: what it declares, or a note that it was skipped. -/
def Loaded.after (loaded : Loaded) (rule : Nat × Document) : Loaded :=
  match Declaration.ofDocument rule.2 with
  | .ok d => { loaded with registry := loaded.registry.declare d }
  | .error fault => { loaded with skipped := loaded.skipped ++ [(rule.1, rule.2, fault)] }

theorem addRule_of_not_checksInfinity (h : ¬ rule.2.ChecksInfinity) :
    addRule loaded rule = .ok (loaded.after rule) := by
  have hrefuses := Declaration.refuses_ofDocument rule.2
  unfold addRule Loaded.after
  rw [registerRule_eq]
  cases hread : Declaration.ofDocument rule.2 with
  | ok d => rfl
  | error fault =>
    rw [hread] at hrefuses
    rcases hrefuses with hskipped | hinfinite
    · exact if_pos hskipped
    · exact absurd (Declaration.stops_ofDocument_iff.1 ⟨fault, hread, hinfinite⟩) h

theorem addRule_of_checksInfinity (h : rule.2.ChecksInfinity) :
    addRule loaded rule = .error (.overflow .infiniteAsWhole) := by
  obtain ⟨_, hread, rfl⟩ := Declaration.stops_ofDocument_iff.2 h
  unfold addRule
  rw [registerRule_eq, hread]
  rfl

/-- **Rules are added one by one, up to the first that checks an infinite argument.** -/
theorem foldlM_addRule_cases (loaded : Loaded) (numbered : List (Nat × Document)) :
    ((∀ rule ∈ numbered, ¬ rule.2.ChecksInfinity) ∧
        numbered.foldlM addRule loaded = .ok (numbered.foldl Loaded.after loaded)) ∨
      ((∃ rule ∈ numbered, rule.2.ChecksInfinity) ∧
        numbered.foldlM addRule loaded = .error (.overflow .infiniteAsWhole)) := by
  induction numbered generalizing loaded with
  | nil => exact Or.inl ⟨nofun, rfl⟩
  | cons rule numbered ih =>
    rw [List.foldlM_cons, List.foldl_cons, List.forall_mem_cons, List.exists_mem_cons_iff]
    by_cases h : rule.2.ChecksInfinity
    · rw [addRule_of_checksInfinity h]
      exact Or.inr ⟨Or.inl h, rfl⟩
    · rw [addRule_of_not_checksInfinity h, Result.ok_bind]
      exact (ih (loaded.after rule)).imp (And.imp_left fun hrest => ⟨h, hrest⟩) (And.imp_left Or.inr)

/-- The number and the fault of a rule that is skipped. -/
def refused? (rule : Nat × Document) : Option (Nat × Document × Fault) :=
  match Declaration.ofDocument rule.2 with
  | .ok _ => none
  | .error fault => some (rule.1, rule.2, fault)

def declares (rule : Document) : Bool := (Declaration.ofDocument rule).toOption.isSome

def declaredBy (rules : List Document) : List Declaration :=
  rules.filterMap fun rule => (Declaration.ofDocument rule).toOption

/-- **What some rules leave is what those of them that are not refused declare.** -/
theorem foldl_after_eq (loaded : Loaded) (numbered : List (Nat × Document)) :
    numbered.foldl Loaded.after loaded =
      ⟨(declaredBy (numbered.map Prod.snd)).foldl declare loaded.registry,
        loaded.skipped ++ numbered.filterMap refused?⟩ := by
  induction numbered generalizing loaded with
  | nil => simp [declaredBy]
  | cons rule numbered ih =>
    rw [List.foldl_cons, ih]
    cases hread : Declaration.ofDocument rule.2 with
    | ok d => simp [Loaded.after, declaredBy, refused?, hread, Except.toOption]
    | error fault => simp [Loaded.after, declaredBy, refused?, hread, Except.toOption]

/-! ### Reading a document -/

def numbered (rules : List Document) : List (Nat × Document) := (List.range rules.length).zip rules

theorem map_snd_numbered (rules : List Document) : (numbered rules).map Prod.snd = rules :=
  List.map_snd_zip (by simp)

/-- The rules of a document that were not skipped when it was read. -/
def Loaded.kept (l : Loaded) (rules : List Document) : List Document :=
  ((numbered rules).filter fun rule => rule.1 ∉ l.skipped.map Prod.fst).map Prod.snd

theorem mem_refused_iff {i : Nat} {rule : Document} (h : rules[i]? = some rule) :
    i ∈ ((numbered rules).filterMap refused?).map Prod.fst ↔
      ∃ fault, Declaration.ofDocument rule = .error fault := by
  simp only [List.mem_map, List.mem_filterMap]
  constructor
  · rintro ⟨_, ⟨⟨j, other⟩, hother, hrefused⟩, rfl⟩
    have hplace := mem_zip_range_iff.1 hother
    unfold refused? at hrefused
    split at hrefused
    · cases hrefused
    · next fault hread =>
      cases hrefused
      obtain rfl := Option.some.inj (h.symm.trans hplace)
      exact ⟨fault, hread⟩
  · rintro ⟨fault, hread⟩
    refine ⟨(i, rule, fault), ⟨(i, rule), mem_zip_range_iff.2 h, ?_⟩, rfl⟩
    rw [refused?, hread]

/-- The rules that were not skipped are those that declare something. -/
theorem Loaded.kept_eq {l : Loaded} (h : l.skipped = (numbered rules).filterMap refused?) :
    l.kept rules = rules.filter declares := by
  have hkept : ∀ rule ∈ numbered rules,
      decide (rule.1 ∉ l.skipped.map Prod.fst) = (declares ∘ Prod.snd) rule := by
    rintro ⟨i, rule⟩ hrule
    rw [Bool.eq_iff_iff, decide_eq_true_iff, h, mem_refused_iff (mem_zip_range_iff.1 hrule),
      Function.comp_apply, declares]
    cases Declaration.ofDocument rule <;> simp [Except.toOption]
  rw [Loaded.kept, List.filter_congr hkept, ← List.filter_map, map_snd_numbered]

theorem declaredBy_filter_declares (rules : List Document) :
    declaredBy (rules.filter declares) = declaredBy rules := by
  rw [declaredBy, List.filterMap_filter]
  refine List.filterMap_congr fun rule _ => ?_
  rw [declares]
  cases Declaration.ofDocument rule <;> rfl

theorem refused_filter_declares (rules : List Document) :
    (numbered (rules.filter declares)).filterMap refused? = [] := by
  refine List.filterMap_eq_nil_iff.2 ?_
  rintro ⟨i, rule⟩ hrule
  have hdeclares := (List.mem_filter.1 (List.mem_of_getElem? (mem_zip_range_iff.1 hrule))).2
  rw [declares] at hdeclares
  rw [refused?]
  cases hread : Declaration.ofDocument rule with
  | ok d => rfl
  | error fault =>
    rw [hread] at hdeclares
    cases hdeclares

def start (d : Document) (canonicalized : OrderedSet Context) : Registry :=
  { empty canonicalized with version := (d.field? "version").getD (.whole 1) }

section Load

variable {d : Document} {canonicalized : OrderedSet Context}

/-- **A document comes to what its rules declare, unless one of them checks an infinite argument.** -/
theorem load_cases (hrules : d.field? "rules" = some (.list rules))
    (hcanonicalized : canonicalizedOf (d.field? "canonicalization_required") = .ok canonicalized) :
    ((∀ rule ∈ rules, ¬ rule.ChecksInfinity) ∧
        load d = .ok ⟨(declaredBy rules).foldl declare (start d canonicalized),
          (numbered rules).filterMap refused?⟩) ∨
      ((∃ rule ∈ rules, rule.ChecksInfinity) ∧ load d = .error (.overflow .infiniteAsWhole)) := by
  have hload : load d = (numbered rules).foldlM addRule ⟨start d canonicalized, []⟩ := by
    unfold load
    rw [hrules]
    dsimp only
    rw [hcanonicalized]
    rfl
  have hmem : ∀ rule, rule ∈ rules ↔ ∃ i, (i, rule) ∈ numbered rules := fun rule =>
    List.mem_iff_getElem?.trans (exists_congr fun _ => mem_zip_range_iff.symm)
  rw [hload]
  rcases foldlM_addRule_cases ⟨start d canonicalized, []⟩ (numbered rules) with
    ⟨hnone, h⟩ | ⟨⟨⟨i, rule⟩, hrule, hchecks⟩, h⟩
  · refine Or.inl ⟨fun rule hrule => ?_, ?_⟩
    · obtain ⟨i, hrule⟩ := (hmem rule).1 hrule
      exact hnone (i, rule) hrule
    · rw [h, foldl_after_eq, map_snd_numbered, List.nil_append]
  · exact Or.inr ⟨⟨rule, (hmem rule).2 ⟨i, hrule⟩, hchecks⟩, h⟩

/-- **A document is read unless one of its rules checks an infinite argument, and the rules that are refused
are then skipped without a trace:** without them the document comes to the same registry. -/
theorem load_kept (hrules : d.field? "rules" = some (.list rules))
    (hcanonicalized : canonicalizedOf (d.field? "canonicalization_required") = .ok canonicalized) :
    ((∃ l, load d = .ok l) ↔ ∀ rule ∈ rules, ¬ rule.ChecksInfinity) ∧
      (∀ fault, load d = .error fault → fault = .overflow .infiniteAsWhole) ∧
      ∀ l, load d = .ok l →
        (∀ i rule, rules[i]? = some rule →
          (i ∈ l.skipped.map Prod.fst ↔ ∀ r : Registry, ∃ fault, r.registerRule rule = .error fault)) ∧
        ∀ d' : Document, d'.field? "rules" = some (.list (l.kept rules)) →
          (∀ name, name ≠ "rules" → d'.field? name = d.field? name) →
            load d' = .ok ⟨l.registry, []⟩ := by
  rcases load_cases hrules hcanonicalized with ⟨hnone, hload⟩ | ⟨⟨rule, hrule, hchecks⟩, hload⟩
  · rw [hload]
    refine ⟨iff_of_true ⟨_, rfl⟩ hnone, nofun, fun l hl => ?_⟩
    obtain rfl := Except.ok.inj hl
    refine ⟨fun i rule hrule => ?_, fun d' hrules' hsame => ?_⟩
    · rw [mem_refused_iff hrule, forall_registerRule_iff]
    · rw [Loaded.kept_eq rfl] at hrules'
      have hstart : start d' canonicalized = start d canonicalized := by
        rw [start, start, hsame "version" (by decide)]
      rw [← hsame "canonicalization_required" (by decide)] at hcanonicalized
      rcases load_cases hrules' hcanonicalized with ⟨-, hload'⟩ | ⟨⟨rule, hrule, hchecks⟩, -⟩
      · rw [hload', hstart, declaredBy_filter_declares, refused_filter_declares]
      · exact absurd hchecks (hnone rule (List.mem_of_mem_filter hrule))
  · rw [hload]
    refine ⟨iff_of_false nofun fun h => h rule hrule hchecks, fun fault hfault => ?_, nofun⟩
    exact (Except.error.inj hfault).symm

end Load

/-- Three rules that declare something, and in between a sink without a context, a number, and a sanitizer
of which the second context is not known. -/
def mixedRules : List Document :=
  [.object [("api", .text "read"), ("role", .text "source"), ("origin", .text "network-parameter")],
    .object [("api", .text "exec"), ("role", .text "sink"), ("contexts", .list [])],
    .whole 5,
    .object [("api", .text "exec"), ("role", .text "Sink"), ("context", .text "html-body"),
      ("args", .list [.text "0", .bool true])],
    .object [("api", .text "read"), ("role", .text "sanitizer"),
      ("contexts", .list [.text "html-body", .text "nowhere"])],
    .object [("api", .text "quote"), ("role", .text "sanitizer"), ("contexts", .text "html-body")]]

def documentOf (rules : List Document) : Document := .object [("version", .whole 2), ("rules", .list rules)]

theorem load_mixedRules : ∃ l, load (documentOf mixedRules) = .ok l ∧ l.skipped.map Prod.fst = [1, 2, 4] ∧
    load (documentOf (l.kept mixedRules)) = .ok ⟨l.registry, []⟩ := by
  obtain ⟨l, hl, hskipped⟩ := Result.exists_ok_of_any (r := load (documentOf mixedRules))
    (p := fun l => l.skipped.map Prod.fst = [1, 2, 4]) (by decide +kernel)
  have hrules : ∀ rules, (documentOf rules).field? "rules" = some (.list rules) := fun _ => rfl
  have hsame : ∀ name, name ≠ "rules" →
      (documentOf (l.kept mixedRules)).field? name = (documentOf mixedRules).field? name := by
    intro name hname
    simp [documentOf, Document.field?, List.lookup_cons, beq_false_of_ne hname]
  obtain ⟨-, -, hkept⟩ := load_kept (hrules mixedRules) rfl
  exact ⟨l, hl, of_decide_eq_true hskipped, (hkept l hl).2 _ (hrules _) hsame⟩

/-- A source, and a sink of which an argument is checked whose position is too large to be a number. -/
def infiniteRules : List Document :=
  [.object [("api", .text "read"), ("role", .text "source"), ("origin", .text "network-parameter")],
    .object [("api", .text "exec"), ("role", .text "sink"), ("context", .text "html-body"),
      ("args", .list [.real (Float.ofScientific 1 false 400)])]]

/-- The rule is not skipped, so the source is lost as well. -/
theorem not_load_infiniteRules :
    (documentOf infiniteRules).field? "rules" = some (.list infiniteRules) ∧
      (documentOf infiniteRules).field? "canonicalization_required" = none ∧
      load (documentOf infiniteRules) = .error (.overflow .infiniteAsWhole) := by
  have hchecks : ∃ rule ∈ infiniteRules, rule.ChecksInfinity := by
    refine ⟨_, List.mem_cons_of_mem _ List.mem_cons_self, "exec", .text "html-body",
      .list [.real (Float.ofScientific 1 false 400)], by decide +kernel,
      ⟨[.htmlBody], by decide +kernel, by decide⟩, [], Float.ofScientific 1 false 400, [], false, rfl,
      nofun, by decide +kernel⟩
  refine ⟨rfl, rfl, ?_⟩
  rcases load_cases (d := documentOf infiniteRules) rfl rfl with ⟨hnone, -⟩ | ⟨-, hload⟩
  · obtain ⟨rule, hrule, hchecks⟩ := hchecks
    exact absurd hchecks (hnone rule hrule)
  · exact hload

end Registry

end TaintFlow
