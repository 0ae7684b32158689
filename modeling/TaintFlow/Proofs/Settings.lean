import TaintFlow.Proofs.Document.Read
import TaintFlow.Proofs.Number
import TaintFlow.Proofs.Result
import TaintFlow.Settings

/-!
# Layers of settings

A setting has the value that the environment gives it, or else the one of the file, or else the built-in one
(`layered`).  Every layer is a fold that touches each setting once, so what is found under a name is what its
own step made of it (`view_foldl`).

The environment is read by the kind of the value that it replaces, which need not be the kind of the built-in
one: a whole number in the file stands for a real one, and then the environment can only replace it by a whole
number (`Narrowed`).  These are the settings at which the environment does not win (`load_layered`).
-/

namespace TaintFlow

namespace Settings

variable {s : Settings} {group name : String}

def names (s : Settings) : List (String × List String) :=
  s.sections.entries.map fun (group, values) => (group, values.keys)

theorem get?_set (s : Settings) (group name other other' : String) (value : Document) :
    (s.set group name value).get? other other' =
      if other = group ∧ other' = name then some value else s.get? other other' := by
  unfold Settings.get? Settings.set
  rw [Table.get?_set]
  by_cases h : other = group
  · subst h
    rw [if_pos rfl, Option.bind_some, Table.get?_set]
    by_cases h' : other' = name
    · rw [if_pos h', if_pos ⟨rfl, h'⟩]
    · rw [if_neg h', if_neg fun h => h' h.2, Table.getD]
      cases s.sections.get? other <;> rfl
  · rw [if_neg h, if_neg fun h' => h h'.1]

/-- One setting is replaced, if any. -/
def SetsAtMost (group name : String) (s s' : Settings) : Prop := s' = s ∨ ∃ value, s' = s.set group name value

theorem SetsAtMost.get?_ne {s' : Settings} {other other' : String} (h : SetsAtMost group name s s')
    (hne : ¬ (other = group ∧ other' = name)) : s'.get? other other' = s.get? other other' := by
  obtain rfl | ⟨value, rfl⟩ := h
  · rfl
  · rw [get?_set, if_neg hne]

theorem names_set {old : Document} (h : s.get? group name = some old) (value : Document) :
    (s.set group name value).names = s.names := by
  obtain ⟨values, hvalues, hold⟩ := Option.bind_eq_some_iff.1 h
  refine Table.map_put hvalues (congrArg (Prod.mk group) ?_)
  rw [Table.getD, hvalues]
  exact Table.map_put hold rfl

theorem isSome_get?_of_names_eq {s' : Settings} (h : s.names = s'.names) (group name : String) :
    (s.get? group name).isSome = (s'.get? group name).isSome := by
  have hlookup : ∀ s : Settings, (s.get? group name).isSome =
      ((s.names.lookup group).any fun keys => decide (name ∈ keys)) := by
    intro s
    rw [names, lookup_map_snd fun values : Table Document => values.keys]
    unfold Settings.get? Table.get?
    cases s.sections.entries.lookup group with
    | none => rfl
    | some values =>
      rw [Option.bind_some, Option.map_some, Option.any_some, Bool.eq_iff_iff, decide_eq_true_iff,
        Table.mem_keys_iff, Option.isSome_iff_exists]
      rfl
  rw [hlookup, hlookup, h]

/-! ### The file -/

def inFile? (file : Option String) (group name : String) : Option Document :=
  ((file.bind Document.read?).bind fun d => d.field? group).bind fun values => values.field? name

/-- What becomes of a value when another one may be given for it. -/
def merged (given : Option Document) (current : Document) : Document :=
  (given.filter (accepts current)).getD current

theorem merged_some (value current : Document) :
    merged (some value) current = if accepts current value then value else current := by
  rw [merged, Option.filter_some]
  split <;> rfl

section Merge

theorem setsAtMost_mergeValue (step : Settings × List Notice) (field : String × Document) :
    SetsAtMost group field.1 step.1 (mergeValue group step field).1 := by
  unfold mergeValue
  dsimp only
  split
  · exact Or.inl rfl
  · split
    · exact Or.inr ⟨_, rfl⟩
    · exact Or.inl rfl

theorem get?_mergeValue (step : Settings × List Notice) (value : Document) :
    (mergeValue group step (name, value)).1.get? group name =
      (step.1.get? group name).map (merged (some value)) := by
  unfold mergeValue
  dsimp only
  split
  · next hnone =>
    rw [hnone]
    rfl
  · next current hcurrent =>
    rw [hcurrent, Option.map_some, merged_some]
    split
    · rw [get?_set, if_pos ⟨rfl, rfl⟩]
    · exact hcurrent

theorem names_mergeValue (step : Settings × List Notice) (field : String × Document) :
    (mergeValue group step field).1.names = step.1.names := by
  unfold mergeValue
  dsimp only
  split
  · rfl
  · next current hcurrent =>
    split
    · exact names_set hcurrent _
    · rfl

theorem get?_mergeSection_ne (step : Settings × List Notice) {field : String × Document} (h : field.1 ≠ group) :
    (mergeSection step field).1.get? group name = step.1.get? group name := by
  unfold mergeSection
  dsimp only
  split
  · next values _ _ =>
    refine List.foldlRecOn (motive := fun now : Settings × List Notice =>
      now.1.get? group name = step.1.get? group name) values _ rfl ?_
    intro now hnow value _
    exact ((setsAtMost_mergeValue now value).get?_ne fun he => h he.1.symm).trans hnow
  · rfl

theorem get?_mergeSection (step : Settings × List Notice) {value : Document} (hvalue : value.Distinct) :
    (mergeSection step (group, value)).1.get? group name =
      (step.1.get? group name).map (merged (value.field? name)) := by
  have hnone : merged none = id := rfl
  unfold mergeSection
  dsimp only
  split
  · next values _ =>
    rw [view_foldl (fun now : Settings × List Notice => now.1.get? group name) _
      (fun current value => current.map (merged (some value))) hvalue.nodup
      (fun now entry he => (setsAtMost_mergeValue now entry).get?_ne fun h => he h.2.symm)
      fun now value _ => get?_mergeValue now value]
    unfold Document.field?
    dsimp only
    cases values.lookup name with
    | none => rw [hnone, Option.map_id, id, Option.elim_none]
    | some value => rfl
  · next value _ _ hmiss =>
    cases hsection : step.1.sections.get? group with
    | none =>
      rw [Settings.get?, hsection]
      rfl
    | some values =>
      have hfield : value.field? name = none := by
        cases value with
        | object fields => exact (hmiss fields (by rw [Table.contains, hsection]; rfl) rfl).elim
        | _ => rfl
      rw [hfield, hnone, Option.map_id, id]

theorem get?_mergeFields {fields : List (String × Document)} (h : (Document.object fields).Distinct) :
    (mergeFields fields).1.get? group name =
      (default.get? group name).map (merged ((fields.lookup group).bind fun values => values.field? name)) := by
  unfold mergeFields
  rw [view_foldl (fun now : Settings × List Notice => now.1.get? group name) _
    (fun current values => current.map (merged (values.field? name))) h.nodup
    (fun now entry he => get?_mergeSection_ne now he)
    fun now value hvalue => get?_mergeSection now (h.field _ hvalue)]
  cases fields.lookup group with
  | none =>
    have hnone : merged none = id := rfl
    rw [Option.bind_none, hnone, Option.map_id]
    rfl
  | some values => rfl

theorem names_mergeFields (fields : List (String × Document)) : (mergeFields fields).1.names = default.names := by
  refine List.foldlRecOn (motive := fun now : Settings × List Notice => now.1.names = default.names) fields _
    rfl fun now hnow field _ => ?_
  unfold mergeSection
  dsimp only
  split
  · next values _ _ =>
    exact List.foldlRecOn (motive := fun now : Settings × List Notice => now.1.names = default.names) values _
      hnow fun now hnow value _ => (names_mergeValue now value).trans hnow
  · exact hnow

end Merge

/-! ### The environment -/

/-- The value that the environment has for a setting, read by the kind of the one that it replaces. -/
def inEnvironment? (env : Table String) (group name : String) (current : Document) : Option Document :=
  (env.get? (variableOf group name)).bind fun text => (readAs current text).toOption

section Override

variable {env : Table String}

theorem setsAtMost_overrideOne (step : Settings × List Notice) (field : String × Document) :
    SetsAtMost group field.1 step.1 (overrideOne env group step field).1 := by
  unfold overrideOne
  dsimp only
  split
  · exact Or.inl rfl
  · split
    · exact Or.inr ⟨_, rfl⟩
    · exact Or.inl rfl

theorem get?_overrideOne (step : Settings × List Notice) (current : Document) :
    (overrideOne env group step (name, current)).1.get? group name =
      (inEnvironment? env group name current).or (step.1.get? group name) := by
  unfold overrideOne inEnvironment?
  dsimp only
  split
  · next hunset => rw [hunset, Option.bind_none, Option.none_or]
  · next text hset =>
    rw [hset, Option.bind_some]
    split
    · next value hvalue =>
      rw [get?_set, if_pos ⟨rfl, rfl⟩, hvalue]
      rfl
    · next cause hcause =>
      rw [hcause]
      rfl

/-- **Every setting is replaced by what the environment has for it**, if it has anything. -/
theorem get?_override (start : Settings × List Notice) : (override env start).1.get? group name =
    (start.1.get? group name).map fun current => (inEnvironment? env group name current).getD current := by
  let view := fun now : Settings × List Notice => now.1.get? group name
  have hinner : ∀ (values : Table Document) (now : Settings × List Notice),
      view (values.entries.foldl (overrideOne env group) now) =
        (values.get? name).elim (view now) fun current => (inEnvironment? env group name current).or (view now) :=
    fun values now => view_foldl view (overrideOne env group)
      (fun before current => (inEnvironment? env group name current).or before)
      values.distinct (fun now entry he => (setsAtMost_overrideOne now entry).get?_ne fun h => he h.2.symm)
      (fun now current _ => get?_overrideOne now current) now
  have houter := view_foldl view
    (fun now (entry : String × Table Document) => entry.2.entries.foldl (overrideOne env entry.1) now)
    (fun before values => (values.get? name).elim before fun current =>
      (inEnvironment? env group name current).or before) start.1.sections.distinct
    (fun now entry he => List.foldlRecOn (motive := fun later => view later = view now) _ _ rfl
      fun later hlater field _ => ((setsAtMost_overrideOne later field).get?_ne fun h => he h.1.symm).trans hlater)
    (fun now values _ => hinner values now) start
  refine Eq.trans houter ?_
  dsimp only [view]
  cases hsection : start.1.sections.entries.lookup group with
  | none =>
    rw [Option.elim_none, Settings.get?, Table.get?, hsection]
    rfl
  | some values =>
    have hstart : start.1.get? group name = values.get? name := by
      rw [Settings.get?, Table.get?, hsection, Option.bind_some]
    rw [Option.elim_some, hstart]
    cases values.get? name with
    | none => rfl
    | some current =>
      rw [Option.elim_some, Option.map_some, Option.or_some]

theorem names_override (start : Settings × List Notice) : (override env start).1.names = start.1.names := by
  let motive := fun now : Settings × List Notice => now.1.names = start.1.names
  refine List.foldlRecOn (motive := motive) start.1.sections.entries _ rfl ?_
  rintro now hnow ⟨group, values⟩ hsection
  refine List.foldlRecOn (motive := motive) values.entries _ hnow ?_
  rintro now hnow ⟨name, current⟩ hvalue
  -- what is overridden is there, as only settings of the start are
  have hstart : (start.1.get? group name).isSome = true := by
    rw [Settings.get?, Table.mem_entries_iff.1 hsection, Option.bind_some, Table.mem_entries_iff.1 hvalue]
    rfl
  obtain ⟨old, hold⟩ := Option.isSome_iff_exists.1 ((isSome_get?_of_names_eq hnow group name).trans hstart)
  unfold overrideOne
  dsimp only
  split
  · exact hnow
  · split
    · exact (names_set hold _).trans hnow
    · exact hnow

end Override

/-! ### All layers -/

/-- What the environment has for a setting, or else the file, or else the built-in value. -/
def layered (file : Option String) (env : Table String) (group name : String) (builtIn : Document) : Document :=
  (inEnvironment? env group name builtIn).getD (merged (inFile? file group name) builtIn)

/-- **A whole number of the file stands for a real one**, so that the real number that the environment has for
the setting is not read as one. -/
def Narrowed (file : Option String) (env : Table String) (group name : String) : Prop :=
  ∃ (x : Float) (n : Int), default.get? group name = some (.real x) ∧ inFile? file group name = some (.whole n) ∧
    ∃ value, inEnvironment? env group name (.real x) = some value

section Load

variable {file : Option String} {env : Table String}

theorem readFile_eq_ok {fields : List (String × Document)} {notices : List Notice}
    (h : readFile file = .ok (fields, notices)) : (Document.object fields).Distinct ∧
      ∀ group name, inFile? file group name = (fields.lookup group).bind fun values => values.field? name := by
  have hempty : (Document.object []).Distinct := .object .nil fun _ hfield => absurd hfield List.not_mem_nil
  unfold readFile at h
  split at h
  · cases h
    exact ⟨hempty, fun _ _ => rfl⟩
  · next text =>
    have hin : ∀ d, Document.read text = .ok d → ∀ group name,
        inFile? (some text) group name = (d.field? group).bind fun values => values.field? name := by
      intro d hd group name
      rw [inFile?, Option.bind_some, Document.read?, hd]
      rfl
    split at h
    · next hread =>
      cases h
      exact ⟨Document.distinct_of_read hread, hin _ hread⟩
    · next d hother hread =>
      cases h
      refine ⟨hempty, fun group name => ?_⟩
      rw [hin d hread]
      cases d with
      | object fields => exact (hother fields rfl).elim
      | _ => rfl
    · next hread =>
      cases h
      refine ⟨hempty, fun group name => ?_⟩
      rw [inFile?, Option.bind_some, Document.read?, hread]
      rfl
    · cases h

theorem readFile_eq_error_iff {fault : Fault} : readFile file = .error fault ↔
    ∃ text, file = some text ∧ Document.read text = .error fault ∧ fault.Oversized := by
  cases file with
  | none => exact iff_of_false nofun fun ⟨_, h, _⟩ => nomatch h
  | some text =>
    unfold readFile
    dsimp only
    split
    · next hread => exact iff_of_false nofun fun ⟨_, he, h, _⟩ => by cases he; cases hread.symm.trans h
    · next hread => exact iff_of_false nofun fun ⟨_, he, h, _⟩ => by cases he; cases hread.symm.trans h
    · next hread =>
      refine iff_of_false nofun fun ⟨_, he, h, hlarge⟩ => ?_
      cases he
      cases hread.symm.trans h
      rcases hlarge with ⟨_, _, he⟩ | ⟨_, he⟩ <;> cases he
    · next cause hreadable hread =>
      constructor
      · intro h
        cases h
        rcases Document.oversized_of_read hread with ⟨why, he⟩ | hlarge
        · exact (hreadable why he).elim
        · exact ⟨text, rfl, hread, hlarge⟩
      · rintro ⟨_, he, h, -⟩
        cases he
        rw [Except.error.inj (hread.symm.trans h)]

theorem load_eq (file : Option String) (env : Table String) : load file env = (readFile file).map fun found =>
    override env ((mergeFields found.1).1, found.2 ++ (mergeFields found.1).2) := by
  unfold load
  cases readFile file <;> rfl

/-- The kind by which the environment is read is that of the built-in value, unless a whole number stands for a
real one. -/
theorem readAs_of_accepts {builtIn value : Document} (h : accepts builtIn value = true) :
    readAs value = readAs builtIn ∨ ∃ x n, builtIn = .real x ∧ value = .whole n := by
  unfold accepts at h
  split at h
  · exact Or.inl rfl
  · exact Or.inl rfl
  · exact Or.inr ⟨_, _, rfl, rfl⟩
  · exact Or.inl rfl
  · exact Or.inl rfl
  · cases h

theorem exists_of_inEnvironment?_real {x : Float} {value : Document}
    (h : inEnvironment? env group name (.real x) = some value) : ∃ y, value = .real y := by
  obtain ⟨text, -, h⟩ := Option.bind_eq_some_iff.1 h
  unfold readAs at h
  dsimp only at h
  split at h
  · exact ⟨_, (Option.some.inj h).symm⟩
  · cases h

theorem exists_of_inEnvironment?_whole {n : Int} {value : Document}
    (h : inEnvironment? env group name (.whole n) = some value) :
    (∃ m, value = .whole m) ∧ ∀ x, ∃ other, inEnvironment? env group name (.real x) = some other := by
  obtain ⟨text, htext, h⟩ := Option.bind_eq_some_iff.1 h
  unfold readAs at h
  dsimp only at h
  split at h
  · next m hm =>
    refine ⟨⟨m, (Option.some.inj h).symm⟩, fun x => ?_⟩
    obtain ⟨y, hy⟩ := exists_realOfText?_of_wholeOfText hm
    refine ⟨.real y, ?_⟩
    rw [inEnvironment?, htext, Option.bind_some, readAs, hy]
    rfl
  · cases h
  · cases h

/-- The environment wins over what the file left of a built-in value, unless the file made a real number a whole
one. -/
theorem getD_merged_eq_layered_iff {builtIn : Document} (hbuiltIn : default.get? group name = some builtIn) :
    (inEnvironment? env group name (merged (inFile? file group name) builtIn)).getD
        (merged (inFile? file group name) builtIn) = layered file env group name builtIn ↔
      ¬ Narrowed file env group name := by
  by_cases hkind : ∃ x n, builtIn = .real x ∧ inFile? file group name = some (.whole n)
  · obtain ⟨x, n, rfl, hfile⟩ := hkind
    have hgiven : merged (inFile? file group name) (.real x) = .whole n := by
      rw [hfile]
      rfl
    rw [layered, hgiven]
    cases henv : inEnvironment? env group name (.real x) with
    | none =>
      have hnone : inEnvironment? env group name (.whole n) = none := by
        refine Option.eq_none_iff_forall_ne_some.2 fun value hvalue => ?_
        obtain ⟨other, hother⟩ := (exists_of_inEnvironment?_whole hvalue).2 x
        cases henv.symm.trans hother
      rw [hnone]
      refine iff_of_true rfl ?_
      rintro ⟨y, -, hy, -, value, hvalue⟩
      obtain rfl : x = y := Document.real.inj (Option.some.inj (hbuiltIn.symm.trans hy))
      cases henv.symm.trans hvalue
    | some value =>
      refine iff_of_false (fun he => ?_) (not_not_intro ⟨x, n, hbuiltIn, hfile, value, henv⟩)
      obtain ⟨y, rfl⟩ := exists_of_inEnvironment?_real henv
      rw [Option.getD_some] at he
      cases hwhole : inEnvironment? env group name (.whole n) with
      | none =>
        rw [hwhole] at he
        cases he
      | some other =>
        obtain ⟨m, rfl⟩ := (exists_of_inEnvironment?_whole hwhole).1
        rw [hwhole] at he
        cases he
  · refine iff_of_true ?_ fun ⟨x, n, hx, hn, _⟩ =>
      hkind ⟨x, n, Option.some.inj (hbuiltIn.symm.trans hx), hn⟩
    have hread : readAs (merged (inFile? file group name) builtIn) = readAs builtIn := by
      cases hfile : inFile? file group name with
      | none => rfl
      | some value =>
        rw [merged_some]
        split
        · next haccepts =>
          refine (readAs_of_accepts haccepts).resolve_right fun ⟨x, n, hx, hn⟩ => hkind ⟨x, n, hx, ?_⟩
          rw [hfile, hn]
        · rfl
    rw [layered, inEnvironment?, inEnvironment?, hread]

/-- **Environment over file over built-in values.** Settings can be loaded unless the file is too large to be
read.  They have the built-in names, and each of them has the value of the highest layer that has one for it,
exactly if no whole number of the file stands in the way of a real one. -/
theorem load_layered (file : Option String) (env : Table String) :
    (∀ fault, load file env = .error fault ↔
      ∃ text, file = some text ∧ Document.read text = .error fault ∧ fault.Oversized) ∧
    ∀ s notices, load file env = .ok (s, notices) → s.names = default.names ∧
      ∀ group name builtIn, default.get? group name = some builtIn →
        ∃ value, s.get? group name = some value ∧
          (value = layered file env group name builtIn ↔ ¬ Narrowed file env group name) := by
  rw [load_eq]
  cases hread : readFile file with
  | error cause =>
    refine ⟨fun fault => ?_, nofun⟩
    rw [← readFile_eq_error_iff, hread]
    constructor <;> exact fun h => congrArg Except.error (Except.error.inj h)
  | ok found =>
    refine ⟨fun fault => ?_, fun s notices h => ?_⟩
    · rw [← readFile_eq_error_iff, hread]
      exact iff_of_false nofun nofun
    · obtain ⟨fields, told⟩ := found
      obtain ⟨hdistinct, hin⟩ := readFile_eq_ok hread
      obtain rfl : (override env ((mergeFields fields).1, told ++ (mergeFields fields).2)).1 = s :=
        congrArg Prod.fst (Except.ok.inj h)
      refine ⟨(names_override _).trans (names_mergeFields fields), fun group name builtIn hbuiltIn => ?_⟩
      refine ⟨_, ?_, getD_merged_eq_layered_iff hbuiltIn⟩
      rw [get?_override, get?_mergeFields hdistinct, hbuiltIn, hin group name]
      rfl

end Load

/-- A file that has a value for four settings: a number of another kind, a value of no kind that is accepted, a
whole number for a real one, and a real number. -/
def mixedFile : String :=
  "\x7b\"limits\":\x7b\"workers\":2,\"max_path_depth\":true\x7d,\"scoring\":\x7b\"unknown_penalty\":1,"
    ++ "\"long_path_penalty\":0.5\x7d\x7d"

/-- An environment that has a value for two of them, and one for a third that is no number. -/
def mixedEnvironment : Table String :=
  .ofList [("SINKTRACE_LIMITS_WORKERS", " +8 "), ("SINKTRACE_SCORING_LONG_PATH_PENALTY", "1e-1"),
    ("SINKTRACE_SCORING_UNKNOWN_PENALTY", "none")]

theorem load_mixedFile : ∃ s notices, load (some mixedFile) mixedEnvironment = .ok (s, notices) ∧
    s.names = default.names ∧ s.get? "limits" "workers" = some (.whole 8) := by
  obtain ⟨⟨s, notices⟩, hload, -⟩ := Result.exists_ok_of_any (r := load (some mixedFile) mixedEnvironment)
    (p := fun _ => true) (by decide +kernel)
  obtain ⟨hnames, hvalues⟩ := (load_layered (some mixedFile) mixedEnvironment).2 s notices hload
  obtain ⟨value, hvalue, hlayered⟩ := hvalues "limits" "workers" (.whole 4) (by decide +kernel)
  have hnot : ¬ Narrowed (some mixedFile) mixedEnvironment "limits" "workers" := by
    rintro ⟨x, n, hx, -⟩
    have hwhole : default.get? "limits" "workers" = some (.whole 4) := by decide +kernel
    cases hwhole.symm.trans hx
  refine ⟨s, notices, hload, hnames, hvalue.trans (congrArg some ((hlayered.2 hnot).trans ?_))⟩
  decide +kernel

/-- A file that gives a real setting as a whole number. -/
def wholePenaltyFile : String := "\x7b\"scoring\":\x7b\"unknown_penalty\":1\x7d\x7d"

def halfPenaltyEnvironment : Table String := .ofList [("SINKTRACE_SCORING_UNKNOWN_PENALTY", "0.5")]

/-- The environment has a real number for the setting, and yet the whole number of the file stays. -/
theorem not_layered_wholePenalty : ∃ s notices,
    load (some wholePenaltyFile) halfPenaltyEnvironment = .ok (s, notices) ∧
      default.get? "scoring" "unknown_penalty" = some (.real 0.6) ∧
        s.get? "scoring" "unknown_penalty" = some (.whole 1) ∧
          layered (some wholePenaltyFile) halfPenaltyEnvironment "scoring" "unknown_penalty" (.real 0.6) ≠
            .whole 1 := by
  obtain ⟨⟨s, notices⟩, hload, hvalue⟩ := Result.exists_ok_of_any
    (r := load (some wholePenaltyFile) halfPenaltyEnvironment)
    (p := fun found => found.1.get? "scoring" "unknown_penalty" = some (.whole 1)) (by decide +kernel)
  exact ⟨s, notices, hload, rfl, of_decide_eq_true hvalue, by decide +kernel⟩

end Settings

end TaintFlow
