import Mathlib.Data.List.Nodup
import TaintFlow.Proofs.Flow.Inputs
import TaintFlow.Summary.Basic

/-!
# What a summary writes down

Each output of a function has a marker of its own (`nodup_markers`).  So what a summary keeps under a
marker is what the state at the end says of the slot of that output: the flows into it
(`mem_transfers_iff`), the labels with an origin (`has_generated_iff`) and the definitions
(`mem_getD_exitDefs_iff`).
-/

namespace TaintFlow

namespace Summary

variable {f : Function} {a : Analysis}

theorem nodup_markers (f : Function) (a : Analysis) : ((outputs f a).map Output.marker).Nodup := by
  have hparams : ((f.indexedParams.filter (fun entry => entry.2.out)).map
      (fun entry => paramMarker entry.1)).Nodup := by
    have hindices : (f.indexedParams.map Prod.fst).Nodup := by
      rw [Function.indexedParams, List.map_fst_zip (by simp)]
      exact List.nodup_range
    have hmarkers : (f.indexedParams.map (fun entry => paramMarker entry.1)).Nodup := by
      have := List.Nodup.map (fun i j h => paramMarker_injective h) hindices
      rwa [List.map_map] at this
    exact hmarkers.sublist (List.filter_sublist.map _)
  have hglobals : ((a.globals.toList.filter (fun name =>
      !((a.exit.defsOf (some (.text name))).erase (globalKey name)).isEmpty)).map
        globalMarker).Nodup :=
    List.Nodup.map (fun i j h => globalMarker_injective h) (a.globals.nodup_toList.filter _)
  simp only [outputs, List.map_append, List.map_cons, List.map_map, List.cons_append]
  refine List.nodup_cons.2 ⟨?_, List.nodup_append.2 ⟨hparams, hglobals, ?_⟩⟩
  · rw [List.mem_append, List.mem_map, List.mem_map]
    rintro (⟨entry, -, he⟩ | ⟨name, -, he⟩)
    · exact returnSlot_ne_paramMarker entry.1 he.symm
    · exact returnSlot_ne_globalMarker name he.symm
  · intro m hm m' hm' he
    obtain ⟨entry, -, rfl⟩ := List.mem_map.1 hm
    obtain ⟨name, -, rfl⟩ := List.mem_map.1 hm'
    exact globalMarker_ne_paramMarker name entry.1 he.symm

theorem output_eq_of_marker {o o' : Output} (h : o ∈ outputs f a) (h' : o' ∈ outputs f a)
    (he : o.marker = o'.marker) : o = o' :=
  List.inj_on_of_nodup_map (nodup_markers f a) h h' he

theorem mem_transfers_iff {t : Transfer} : t ∈ (ofAnalysis f a).transfers ↔
    ∃ o ∈ outputs f a, ∃ l ∈ (a.exit.taintOf (some (.text o.slot))).labels, ∃ m ∈ l.symbols,
      (m ≠ o.marker ∨ l.crossedUnknown = true) ∧
        t = ⟨.text m, .text o.marker, .truth l.crossedUnknown⟩ := by
  simp only [ofAnalysis, OrderedSet.mem_ofList, List.mem_flatMap, Output.transfers, List.mem_map,
    List.mem_filter, Bool.or_eq_true, decide_eq_true_eq]
  constructor
  · rintro ⟨o, ho, l, hl, m, ⟨hm, hc⟩, rfl⟩
    exact ⟨o, ho, l, hl, m, hm, hc, rfl⟩
  · rintro ⟨o, ho, l, hl, m, hm, hc, rfl⟩
    exact ⟨o, ho, l, hl, m, ⟨hm, hc⟩, rfl⟩

theorem get?_ofList_outputs {β : Type} (f : Function) (a : Analysis) (value : Output → β)
    (keep : String × β → Bool) (marker : String) (b : β) :
    (OrderedMap.ofList (((outputs f a).map (fun o => (o.marker, value o))).filter keep)).get?
        marker = some b ↔
      ∃ o ∈ outputs f a, o.marker = marker ∧ value o = b ∧ keep (marker, b) = true := by
  have hkeys : ((((outputs f a).map (fun o => (o.marker, value o))).filter keep).map
      Prod.fst).Nodup := by
    have hall : (((outputs f a).map (fun o => (o.marker, value o))).map Prod.fst).Nodup := by
      rw [List.map_map]
      exact nodup_markers f a
    exact hall.sublist (List.filter_sublist.map _)
  rw [OrderedMap.get?_ofList hkeys, ← mem_iff_lookup_eq_some hkeys, List.mem_filter, List.mem_map]
  constructor
  · rintro ⟨⟨o, ho, he⟩, hkeep⟩
    obtain ⟨rfl, rfl⟩ := Prod.mk.inj he
    exact ⟨o, ho, rfl, rfl, hkeep⟩
  · rintro ⟨o, ho, rfl, rfl, hkeep⟩
    exact ⟨⟨o, ho, rfl⟩, hkeep⟩

theorem has_getD_generated_iff {marker : String} {i : Identity} :
    ((ofAnalysis f a).generated.getD marker ∅).has i = true ↔ ∃ o ∈ outputs f a,
      o.marker = marker ∧ (a.exit.taintOf (some (.text o.slot))).concrete.has i = true := by
  have hget := get?_ofList_outputs f a
    (fun o => (a.exit.taintOf (some (.text o.slot))).concrete) (fun entry => !entry.2.isEmpty) marker
  rw [OrderedMap.has_getD_iff]
  constructor
  · rintro ⟨taint, ht, hi⟩
    obtain ⟨o, ho, he, rfl, -⟩ := (hget taint).1 ht
    exact ⟨o, ho, he, hi⟩
  · rintro ⟨o, ho, he, hi⟩
    refine ⟨_, (hget _).2 ⟨o, ho, he, rfl, ?_⟩, hi⟩
    rw [Bool.not_eq_true']
    exact TaintSet.isEmpty_eq_false_iff.2 ⟨i, hi⟩

/-- What a summary generates for an output is the part of the output's taint that has an origin. -/
theorem has_generated_iff {o : Output} (ho : o ∈ outputs f a) (i : Identity) :
    ((ofAnalysis f a).generated.getD o.marker ∅).has i = true ↔
      (a.exit.taintOf (some (.text o.slot))).concrete.has i = true := by
  rw [has_getD_generated_iff]
  constructor
  · rintro ⟨o', ho', he, hi⟩
    rw [← output_eq_of_marker ho' ho he]
    exact hi
  · intro hi
    exact ⟨o, ho, rfl, hi⟩

theorem mem_getD_exitDefs_iff {marker d : String} :
    d ∈ (ofAnalysis f a).exitDefs.getD marker ∅ ↔
      ∃ o ∈ outputs f a, o.marker = marker ∧ d ∈ o.definitions a.exit := by
  have hget := get?_ofList_outputs f a (fun o => o.definitions a.exit)
    (fun entry => !entry.2.isEmpty) marker
  rw [OrderedMap.mem_getD_iff]
  constructor
  · rintro ⟨defs, hdefs, hd⟩
    obtain ⟨o, ho, he, rfl, -⟩ := (hget defs).1 hdefs
    exact ⟨o, ho, he, hd⟩
  · rintro ⟨o, ho, he, hd⟩
    refine ⟨_, (hget _).2 ⟨o, ho, he, rfl, ?_⟩, hd⟩
    rw [Bool.not_eq_true']
    exact OrderedSet.isEmpty_eq_false_iff.2 ⟨d, hd⟩

end Summary

end TaintFlow
