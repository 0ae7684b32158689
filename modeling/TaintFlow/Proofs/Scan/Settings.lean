import TaintFlow.Proofs.Flow.Faults
import TaintFlow.Scan

/-!
# Settings that a document cannot break

Whatever a document says, a limit stays a whole number, because a value is replaced by one of its kind only.
So every limit can be read from the settings, and the built-in values for scores are those that are used
unless the document has a section for them (`Settings.regular_of_merge`).
-/

namespace TaintFlow

theorem Document.get?_ofTable {α : Type} (f : α → Document) (t : Table α) (name : String) :
    (ofTable f t).get? name = .ok ((t.get? name).map f) :=
  congrArg Except.ok (lookup_map_snd f t.entries name)

namespace Settings

/-- The limits are whole numbers, and the values for scores are the built-in ones. -/
structure Regular (s : Settings) : Prop where
  limits : ∀ values, s.sections.get? "limits" = some values →
    ∀ name value, values.get? name = some value → ∃ n, value = .whole n
  scoring : s.sections.get? "scoring" = some defaultScoring

variable {s : Settings} {notices : List Notice} {group : String}

theorem whole_of_accepts {current value : Document} (h : accepts current value = true) {n : Int}
    (hcurrent : current = .whole n) : ∃ m, value = .whole m := by
  subst hcurrent
  cases value with
  | whole m => exact ⟨m, rfl⟩
  | _ => cases h

theorem regular_default : default.Regular := by
  refine ⟨fun values hvalues name value hvalue => ?_, rfl⟩
  obtain rfl : defaultLimits = values := Option.some.inj hvalues
  have hall : defaultLimits.entries.all (fun entry => accepts (.whole 0) entry.2) = true := by
    decide +kernel
  exact whole_of_accepts (List.all_eq_true.1 hall _ (Table.mem_entries_iff.2 hvalue)) rfl

theorem Regular.mergeValue (h : s.Regular) (hgroup : group ≠ "scoring") (field : String × Document) :
    (Settings.mergeValue group (s, notices) field).1.Regular := by
  unfold Settings.mergeValue
  dsimp only
  split
  · exact h
  · next current hcurrent =>
    split
    · next haccepts =>
      obtain ⟨section', hsection, hvalue⟩ := Option.bind_eq_some_iff.1 hcurrent
      refine ⟨fun values hvalues name value hname => ?_, ?_⟩
      · rw [Settings.set, Table.get?_set] at hvalues
        split at hvalues
        · next he =>
          subst he
          cases hvalues
          rw [Table.getD, hsection, Option.getD_some, Table.get?_set] at hname
          split at hname
          · cases hname
            obtain ⟨n, hn⟩ := h.limits section' hsection _ current hvalue
            exact whole_of_accepts haccepts hn
          · exact h.limits section' hsection name value hname
        · exact h.limits values hvalues name value hname
      · rw [Settings.set, Table.get?_set, if_neg (Ne.symm hgroup)]
        exact h.scoring
    · exact h

theorem Regular.mergeSection (h : s.Regular) {field : String × Document} (hfield : field.1 ≠ "scoring") :
    (Settings.mergeSection (s, notices) field).1.Regular := by
  unfold Settings.mergeSection
  dsimp only
  split
  · next values _ hvalues =>
    refine List.foldlRecOn (motive := fun step : Settings × List Notice => step.1.Regular) values _ h ?_
    rintro ⟨now, notices⟩ hnow value -
    exact hnow.mergeValue hfield value
  · exact h

/-- **Merging a document without values for scores** leaves whole limits and the built-in values. -/
theorem regular_of_merge (fields : List (String × Document)) (h : ∀ value, ("scoring", value) ∉ fields) :
    ∃ settings notices, merge (.object fields) = .ok (settings, notices) ∧ settings.Regular := by
  unfold merge
  split
  · refine ⟨(mergeFields fields).1, (mergeFields fields).2, rfl, ?_⟩
    refine List.foldlRecOn (motive := fun step : Settings × List Notice => step.1.Regular) fields _
      regular_default ?_
    rintro ⟨now, notices⟩ hnow field hfield
    refine hnow.mergeSection fun he => h field.2 ?_
    rw [← he]
    exact hfield
  · exact ⟨default, [], rfl, regular_default⟩

def limitsDocument (s : Settings) : Document :=
  ((s.sections.get? "limits").map (Document.ofTable id)).getD (.object [])

theorem Regular.exists_wholeOf (h : s.Regular) (name : String) (default : Int) :
    ∃ n, Scorer.wholeOf s.limitsDocument name default = .ok n := by
  unfold limitsDocument Scorer.wholeOf
  cases hlimits : s.sections.get? "limits" with
  | none => exact ⟨default, rfl⟩
  | some values =>
    rw [Option.map_some, Option.getD_some, Document.get?_ofTable]
    cases hvalue : values.get? name with
    | none => exact ⟨default, rfl⟩
    | some value =>
      obtain ⟨n, rfl⟩ := h.limits values hlimits name value hvalue
      exact ⟨n, rfl⟩

theorem Regular.isTruthy (h : s.Regular) : s.toDocument.isTruthy = true := by
  have hmem : ("scoring", defaultScoring) ∈ s.sections.entries := Table.mem_entries_iff.2 h.scoring
  cases hentries : s.sections.entries with
  | nil =>
    rw [hentries] at hmem
    exact absurd hmem List.not_mem_nil
  | cons entry rest =>
    unfold toDocument Document.ofTable
    rw [hentries]
    rfl

/-- **Every limit can be read.** -/
theorem Regular.exists_limitOf (h : s.Regular) (name : String) (default : Int) :
    ∃ n, limitOf s.toDocument name default = .ok n := by
  rw [limitOf, if_pos h.isTruthy, toDocument, Document.get?_ofTable]
  exact h.exists_wholeOf name default

end Settings

variable {s : Settings}

theorem ResolveLimits.exists_ofConfig (h : s.Regular) : ∃ maxVisits maxRounds,
    limitOf s.toDocument "max_visits_per_node" 200 = .ok maxVisits ∧
      ofConfig s.toDocument = .ok ⟨maxVisits, maxRounds⟩ := by
  obtain ⟨maxVisits, hvisits⟩ := h.exists_limitOf "max_visits_per_node" 200
  obtain ⟨maxRounds, hrounds⟩ := h.exists_limitOf "max_scc_iterations" 20
  obtain ⟨workers, hworkers⟩ := h.exists_limitOf "workers" 4
  refine ⟨maxVisits, maxRounds, hvisits, ?_⟩
  rw [ofConfig, hvisits, hrounds, hworkers]
  rfl

theorem ConcreteLimits.exists_ofConfig (h : s.Regular) {maxVisits : Int}
    (hvisits : limitOf s.toDocument "max_visits_per_node" 200 = .ok maxVisits) :
    ∃ maxRounds, 0 < maxRounds ∧ ofConfig s.toDocument = .ok ⟨maxVisits, maxRounds⟩ := by
  obtain ⟨maxRounds, hrounds⟩ := h.exists_limitOf "max_worklist_rounds" 50
  refine ⟨(max 1 maxRounds).toNat, by omega, ?_⟩
  rw [ofConfig, hvisits, hrounds]
  rfl

theorem SearchLimits.exists_ofConfig (h : s.Regular) : ∃ limits, ofConfig s.toDocument = .ok limits := by
  obtain ⟨maxDepth, hdepth⟩ := h.exists_limitOf "max_path_depth" 40
  obtain ⟨maxPaths, hpaths⟩ := h.exists_limitOf "max_paths_per_sink" 100
  obtain ⟨maxStates, hstates⟩ := h.exists_limitOf "max_path_states" 20000
  refine ⟨⟨maxDepth, maxPaths, maxStates⟩, ?_⟩
  rw [ofConfig, hdepth, hpaths, hstates]
  rfl

/-- The scores of regular settings have the built-in penalty for unknown code. -/
theorem Scorer.exists_ofConfig (h : s.Regular) :
    ∃ scorer, ofConfig s.toDocument = .ok scorer ∧ scorer.unknownPenalty = 0.6 := by
  obtain ⟨pathLength, hpath⟩ := h.exists_wholeOf "path_length_ceiling" 16
  obtain ⟨mergeCount, hmerge⟩ := h.exists_wholeOf "merge_count_ceiling" 4
  have hscoring : section? s.toDocument "scoring" = .ok (.ofTable id Settings.defaultScoring) := by
    rw [section?, if_pos h.isTruthy, Settings.toDocument, Document.get?_ofTable, h.scoring]
    rfl
  have hlimits : section? s.toDocument "limits" = .ok s.limitsDocument := by
    rw [section?, if_pos h.isTruthy, Settings.toDocument, Document.get?_ofTable]
    rfl
  refine ⟨⟨0.6, 0.1, 0.9, 0.05, 0.15, pathLength, mergeCount⟩, ?_, rfl⟩
  rw [ofConfig, hscoring, hlimits]
  simp only [bind, Except.bind]
  rw [hpath, hmerge]
  rfl

end TaintFlow
