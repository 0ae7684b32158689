import Mathlib.Data.List.Basic
import TaintFlow.Proofs.Collection
import TaintFlow.TaintSet

/-!
# The identities of a taint set

Two taint sets are compared by the identities of their labels; ways do not matter.  Each operation is
described once through `has`: union is union (`has_union`, `has_join`), taking a step keeps every
identity (`has_extend`), and the concrete part keeps what has an origin and drops its markers
(`has_concrete_iff`).
-/

namespace TaintFlow

namespace Label

@[simp] theorem identity_extend (l : Label) (node mark : Atom) :
    (l.extend node mark).identity = l.identity := by
  unfold extend
  split
  · split <;> rfl
  · rfl

@[simp] theorem identity_withoutSymbols (l : Label) :
    l.withoutSymbols.identity = { l.identity with symbols := ∅ } := rfl

end Label

namespace TaintSet

theorem has_iff {s : TaintSet} {i : Identity} :
    s.has i = true ↔ ∃ l ∈ s.labels, l.identity = i := by
  simp [has, find?]

@[simp] theorem has_empty (i : Identity) : (∅ : TaintSet).has i = false := rfl

theorem isEmpty_iff {s : TaintSet} : s.isEmpty = true ↔ ∀ i, s.has i = false := by
  rw [isEmpty, List.isEmpty_iff]
  constructor
  · intro h i
    rw [← Bool.not_eq_true, has_iff, h]
    simp
  · intro h
    refine List.eq_nil_iff_forall_not_mem.2 fun l hl => ?_
    have := h l.identity
    rw [← Bool.not_eq_true] at this
    exact this (has_iff.2 ⟨l, hl, rfl⟩)

theorem isEmpty_eq_false_iff {s : TaintSet} : s.isEmpty = false ↔ ∃ i, s.has i = true := by
  rw [← Bool.not_eq_true, isEmpty_iff]
  simp

theorem exists_identity_merge_iff {l : Label} {ls : List Label} {i : Identity} :
    (∃ m ∈ merge l ls, m.identity = i) ↔ l.identity = i ∨ ∃ m ∈ ls, m.identity = i := by
  induction ls with
  | nil => simp [merge]
  | cons m rest ih =>
    rw [merge]
    split
    · next he =>
      simp only [List.exists_mem_cons_iff, Label.identity_join_of_eq he]
      rw [he]
      exact ⟨Or.inr, fun h => h.elim Or.inl id⟩
    · simp only [List.exists_mem_cons_iff, ih]
      constructor
      · rintro (h | h | h)
        · exact Or.inr (Or.inl h)
        · exact Or.inl h
        · exact Or.inr (Or.inr h)
      · rintro (h | h | h)
        · exact Or.inr (Or.inl h)
        · exact Or.inl h
        · exact Or.inr (Or.inr h)

@[simp] theorem has_add {s : TaintSet} {l : Label} {i : Identity} :
    (s.add l).has i = true ↔ l.identity = i ∨ s.has i = true := by
  rw [has_iff, has_iff]
  exact exists_identity_merge_iff

theorem has_foldl_add {ls : List Label} {s : TaintSet} {i : Identity} :
    (ls.foldl add s).has i = true ↔ s.has i = true ∨ ∃ l ∈ ls, l.identity = i := by
  induction ls generalizing s with
  | nil => simp
  | cons l rest ih =>
    rw [List.foldl_cons, ih, has_add, List.exists_mem_cons_iff]
    constructor
    · rintro ((h | h) | h) <;> simp [h]
    · rintro (h | h | h) <;> simp [h]

@[simp] theorem has_ofList {ls : List Label} {i : Identity} :
    (ofList ls).has i = true ↔ ∃ l ∈ ls, l.identity = i := by
  rw [ofList, has_foldl_add]
  exact or_iff_right (by simp [has, find?, empty])

@[simp] theorem has_of {l : Label} {i : Identity} : (of l).has i = true ↔ i = l.identity := by
  rw [of, has_ofList, List.exists_mem_cons_iff]
  simp [eq_comm]

@[simp] theorem has_union {s t : TaintSet} {i : Identity} :
    (s ∪ t).has i = true ↔ s.has i = true ∨ t.has i = true := by
  change (union s t).has i = true ↔ _
  rw [union]
  split
  · next h => simp [isEmpty_iff.1 h i]
  · split
    · next h => simp [isEmpty_iff.1 h i]
    · rw [has_foldl_add, ← has_iff]

theorem has_unionAll {s : TaintSet} {ts : List TaintSet} {i : Identity} :
    (s.unionAll ts).has i = true ↔ s.has i = true ∨ ∃ t ∈ ts, t.has i = true := by
  induction ts generalizing s with
  | nil => simp [unionAll]
  | cons t rest ih =>
    have h : s.unionAll (t :: rest) = (s ∪ t).unionAll rest := rfl
    rw [h, ih, has_union, List.exists_mem_cons_iff, or_assoc]

@[simp] theorem has_join {ts : List TaintSet} {i : Identity} :
    (join ts).has i = true ↔ ∃ t ∈ ts, t.has i = true := by
  rw [join, has_unionAll]
  exact or_iff_right (by simp [has, find?, empty])

@[simp] theorem has_extend {s : TaintSet} {node mark : Atom} {i : Identity} :
    (s.extend node mark).has i = s.has i := by
  rw [Bool.eq_iff_iff, extend, has_ofList, has_iff]
  constructor
  · rintro ⟨l, hl, rfl⟩
    obtain ⟨m, hm, rfl⟩ := List.mem_map.1 hl
    exact ⟨m, hm, (Label.identity_extend m node mark).symm⟩
  · rintro ⟨l, hl, rfl⟩
    exact ⟨l.extend node mark, List.mem_map.2 ⟨l, hl, rfl⟩, Label.identity_extend l node mark⟩

@[simp] theorem has_markUnknown {s : TaintSet} {node : Atom} {i : Identity} :
    (s.markUnknown node).has i = s.has i := has_extend

theorem has_concrete_iff {s : TaintSet} {i : Identity} :
    s.concrete.has i = true ↔
      ∃ j, s.has j = true ∧ j.origins.isEmpty = false ∧ i = { j with symbols := ∅ } := by
  rw [concrete, has_ofList]
  constructor
  · rintro ⟨l, hl, rfl⟩
    obtain ⟨m, hm, rfl⟩ := List.mem_map.1 hl
    obtain ⟨hm, hc⟩ := List.mem_filter.1 hm
    refine ⟨m.identity, has_iff.2 ⟨m, hm, rfl⟩, ?_, Label.identity_withoutSymbols m⟩
    rw [Label.isConcrete, Bool.not_eq_true'] at hc
    exact hc
  · rintro ⟨j, hj, ho, rfl⟩
    obtain ⟨l, hl, rfl⟩ := has_iff.1 hj
    refine ⟨l.withoutSymbols, List.mem_map.2 ⟨l, List.mem_filter.2 ⟨hl, ?_⟩, rfl⟩,
      Label.identity_withoutSymbols l⟩
    rw [Label.isConcrete, Bool.not_eq_true']
    exact ho

theorem isSubset_iff {s t : TaintSet} :
    s.isSubset t = true ↔ ∀ i, s.has i = true → t.has i = true := by
  rw [isSubset, List.all_eq_true]
  constructor
  · intro h i hi
    obtain ⟨l, hl, rfl⟩ := has_iff.1 hi
    exact h l hl
  · intro h l hl
    exact h l.identity (has_iff.2 ⟨l, hl, rfl⟩)

theorem same_iff {s t : TaintSet} : s.same t = true ↔ ∀ i, s.has i = t.has i := by
  rw [same, Bool.and_eq_true, isSubset_iff, isSubset_iff]
  constructor
  · rintro ⟨hst, hts⟩ i
    exact Bool.eq_iff_iff.2 ⟨hst i, hts i⟩
  · intro h
    exact ⟨fun i hi => h i ▸ hi, fun i hi => (h i).symm ▸ hi⟩

end TaintSet

end TaintFlow
