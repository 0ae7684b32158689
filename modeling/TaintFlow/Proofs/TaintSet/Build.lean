import Mathlib.Data.List.Nodup
import TaintFlow.Proofs.Label
import TaintFlow.Proofs.Result
import TaintFlow.Proofs.TaintSet

/-!
# Taint sets, however they are built

A set that was built from some labels holds their identities, and for each of them one of those labels that have
the first way (`Condenses`).  Adding a label keeps this up (`Condenses.add`), and uniting two sets puts together
what they were built from (`Condenses.union`), so it holds of every set that is built by any nesting of these
operations (`Build.condenses_set`).  What a set holds therefore does not depend on the order or the nesting in
which its labels were put in.

Building stops only at labels of one identity whose ways cannot be compared (`Build.yields_set?`).
-/

namespace TaintFlow

namespace Label

variable {l m : Label} {i : Identity} {ls ks : List Label}

/-- A label of a list, of an identity, with the first way that labels of this identity have there. -/
structure IsFirst (i : Identity) (ls : List Label) (l : Label) : Prop where
  mem : l ∈ ls
  identity : l.identity = i
  isLE : ∀ m ∈ ls, m.identity = i → (compareWays l m).isLE = true

theorem IsFirst.perm (h : l.IsFirst i ls) (hperm : ls.Perm ks) : l.IsFirst i ks :=
  ⟨hperm.mem_iff.1 h.mem, h.identity, fun m hm => h.isLE m (hperm.mem_iff.2 hm)⟩

theorem IsFirst.concat (h : m.IsFirst i ls) (hl : l.identity ≠ i) : m.IsFirst i (ls ++ [l]) := by
  refine ⟨List.mem_append_left _ h.mem, h.identity, fun k hk hik => ?_⟩
  rcases List.mem_append.1 hk with hk | hk
  · exact h.isLE k hk hik
  · exact absurd (List.mem_singleton.1 hk ▸ hik) hl

theorem IsFirst.join (h : m.IsFirst i ls) (hl : l.identity = i) : (m.join l).IsFirst i (ls ++ [l]) := by
  have hsame : m.identity = l.identity := h.identity.trans hl.symm
  obtain ⟨hkept, hm, hnew⟩ := join_cases hsame
  refine ⟨?_, (identity_join_of_eq hsame).trans h.identity, fun k hk hik => ?_⟩
  · rcases hkept with he | he
    · rw [he]
      exact List.mem_append_left _ h.mem
    · rw [he]
      exact List.mem_append_right _ List.mem_cons_self
  · rcases List.mem_append.1 hk with hk | hk
    · exact Std.TransCmp.isLE_trans hm (h.isLE k hk hik)
    · exact List.mem_singleton.1 hk ▸ hnew

/-- First labels of one list say the same. -/
theorem IsFirst.alike (hl : l.IsFirst i ls) (hm : m.IsFirst i ls) : l.Alike m := by
  have hways := Std.OrientedCmp.isLE_antisymm (hl.isLE m hm.mem hm.identity) (hm.isLE l hl.mem hl.identity)
  obtain ⟨hnodes, hcrossed⟩ := compareWays_eq_iff.1 hways
  exact ⟨hl.identity.trans hm.identity.symm, hnodes, hcrossed⟩

end Label

namespace TaintSet

variable {s t : TaintSet} {ls ks : List Label} {l m : Label} {i : Identity}

/-! ### Looking up labels -/

theorem find?_eq_some_iff : s.find? i = some l ↔ l ∈ s.labels ∧ l.identity = i := by
  have hmem : ∀ m, s.find? i = some m → m ∈ s.labels ∧ m.identity = i := fun m hm =>
    ⟨List.mem_of_find?_eq_some hm, by simpa using List.find?_some hm⟩
  refine ⟨hmem l, ?_⟩
  rintro ⟨hl, rfl⟩
  obtain ⟨m, hm⟩ := Option.isSome_iff_exists.1 (has_iff.2 ⟨l, hl, rfl⟩)
  obtain ⟨hms, hidentity⟩ := hmem m hm
  rw [hm, List.inj_on_of_nodup_map (List.pairwise_map.2 s.distinct) hms hl hidentity]

theorem find?_eq_none_iff : s.find? i = none ↔ s.has i = false := by
  rw [has, Option.isSome_eq_false_iff, Option.isNone_iff_eq_none]

theorem find?_merge (l : Label) (ls : List Label) (i : Identity) :
    (merge l ls).find? (fun m => m.identity = i) =
      if i = l.identity then some ((ls.find? fun m => m.identity = i).elim l fun m => m.join l)
      else ls.find? fun m => m.identity = i := by
  induction ls with
  | nil =>
    by_cases h : i = l.identity
    · simp [merge, h]
    · simp [merge, h, Ne.symm h]
  | cons m rest ih =>
    rw [merge]
    by_cases hm : m.identity = l.identity
    · rw [if_pos hm]
      by_cases h : i = l.identity
      · simp [h, hm, Label.identity_join_of_eq hm]
      · simp [h, hm, Ne.symm h, Label.identity_join_of_eq hm]
    · rw [if_neg hm, List.find?_cons, List.find?_cons, ih]
      by_cases h : i = l.identity
      · simp [h, hm]
      · simp [h]

theorem find?_add (s : TaintSet) (l : Label) (i : Identity) : (s.add l).find? i =
    if i = l.identity then some ((s.find? i).elim l fun m => m.join l) else s.find? i :=
  find?_merge l s.labels i

/-! ### What a set was built from -/

/-- A set holds the identities of some labels, and for each of them one of these labels with the first way. -/
structure Condenses (s : TaintSet) (ls : List Label) : Prop where
  has_iff : ∀ i, s.has i = true ↔ ∃ l ∈ ls, l.identity = i
  isFirst : ∀ i l, s.find? i = some l → l.IsFirst i ls

namespace Condenses

theorem empty : (∅ : TaintSet).Condenses [] := ⟨fun i => by simp, fun i l h => by cases h⟩

theorem perm (h : s.Condenses ls) (hperm : ls.Perm ks) : s.Condenses ks :=
  ⟨fun i => (h.has_iff i).trans (exists_congr fun _ => and_congr_left' hperm.mem_iff),
    fun i l hl => (h.isFirst i l hl).perm hperm⟩

theorem subset (h : s.Condenses ls) : s.labels ⊆ ls :=
  fun l hl => (h.isFirst l.identity l (find?_eq_some_iff.2 ⟨hl, rfl⟩)).mem

theorem add (h : s.Condenses ls) (l : Label) : (s.add l).Condenses (ls ++ [l]) := by
  constructor
  · intro i
    rw [has_add, h.has_iff]
    simp only [List.mem_append, List.mem_singleton, or_and_right, exists_or, exists_eq_left, or_comm]
  · intro i m hm
    rw [find?_add] at hm
    by_cases hi : i = l.identity
    · rw [if_pos hi, Option.some_inj] at hm
      cases hfound : s.find? i with
      | some first =>
        rw [hfound] at hm
        exact hm ▸ (h.isFirst i first hfound).join hi.symm
      | none =>
        obtain rfl : l = m := by rwa [hfound] at hm
        refine ⟨List.mem_append_right _ List.mem_cons_self, hi.symm, fun k hk hik => ?_⟩
        rcases List.mem_append.1 hk with hk | hk
        · have hnot := find?_eq_none_iff.1 hfound
          rw [(h.has_iff i).2 ⟨k, hk, hik⟩] at hnot
          cases hnot
        · rw [List.mem_singleton.1 hk]
          exact Std.ReflCmp.isLE_rfl
    · rw [if_neg hi] at hm
      exact (h.isFirst i m hm).concat (Ne.symm hi)

theorem foldl_add (h : s.Condenses ls) (ks : List Label) : (ks.foldl TaintSet.add s).Condenses (ls ++ ks) := by
  induction ks generalizing s ls with
  | nil => simpa using h
  | cons l rest ih => simpa using ih (h.add l)

/-- The labels of a set stand for what the set was built from. -/
theorem absorb (h : s.Condenses (ls ++ t.labels)) (ht : t.Condenses ks) : s.Condenses (ls ++ ks) := by
  constructor
  · intro i
    simp only [h.has_iff, List.mem_append, or_and_right, exists_or, ← ht.has_iff, TaintSet.has_iff]
  · intro i l hl
    obtain ⟨hmem, hidentity, hle⟩ := h.isFirst i l hl
    refine ⟨List.mem_append.2 ((List.mem_append.1 hmem).imp_right fun h => ht.subset h), hidentity, fun m hm him => ?_⟩
    rcases List.mem_append.1 hm with hm | hm
    · exact hle m (List.mem_append_left _ hm) him
    · obtain ⟨first, hfirst⟩ := Option.isSome_iff_exists.1 ((ht.has_iff i).2 ⟨m, hm, him⟩)
      have hheld := find?_eq_some_iff.1 hfirst
      exact Std.TransCmp.isLE_trans (hle first (List.mem_append_right _ hheld.1) hheld.2)
        ((ht.isFirst i first hfirst).isLE m hm him)

end Condenses

theorem condenses_ofList (ls : List Label) : (ofList ls).Condenses ls := Condenses.empty.foldl_add ls

/-! ### Uniting sets -/

theorem merge_of_forall_ne (h : ∀ m ∈ ls, m.identity ≠ l.identity) : merge l ls = ls ++ [l] := by
  induction ls with
  | nil => rfl
  | cons m rest ih =>
    rw [merge, if_neg (h m List.mem_cons_self), ih fun k hk => h k (List.mem_cons_of_mem m hk), List.cons_append]

theorem labels_foldl_add (h : (s.labels ++ ls).Pairwise fun a b => a.identity ≠ b.identity) :
    (ls.foldl add s).labels = s.labels ++ ls := by
  induction ls generalizing s with
  | nil => simp
  | cons l rest ih =>
    have hlabels : (s.add l).labels = s.labels ++ [l] :=
      merge_of_forall_ne fun m hm => (List.pairwise_append.1 h).2.2 m hm l List.mem_cons_self
    rw [List.foldl_cons, ih (by rwa [hlabels, List.append_assoc]), hlabels, List.append_assoc]
    rfl

theorem eq_of_labels_eq (h : s.labels = t.labels) : s = t := by
  cases s
  cases t
  cases h
  rfl

/-- A set is built again from its own labels. -/
theorem ofList_labels (s : TaintSet) : ofList s.labels = s :=
  eq_of_labels_eq (labels_foldl_add s.distinct)

/-- Uniting two sets is adding the labels of the second to the first, also where it only hands one of them back. -/
theorem foldl_add_labels (s t : TaintSet) : t.labels.foldl add s = s ∪ t := by
  change _ = union s t
  rw [union]
  split
  · next h => rw [List.isEmpty_iff.1 h]; rfl
  · split
    · next h =>
      obtain rfl : s = empty := eq_of_labels_eq (List.isEmpty_iff.1 h)
      exact ofList_labels t
    · rfl

theorem condenses_labels (s : TaintSet) : s.Condenses s.labels := by
  have h := condenses_ofList s.labels
  rwa [ofList_labels] at h

theorem Condenses.union (hs : s.Condenses ls) (ht : t.Condenses ks) : (s ∪ t).Condenses (ls ++ ks) := by
  have hadded := hs.foldl_add t.labels
  rw [foldl_add_labels] at hadded
  exact hadded.absorb ht

theorem ofList_labels_append (s : TaintSet) (ks : List Label) : ofList (s.labels ++ ks) = ks.foldl add s := by
  rw [ofList, List.foldl_append, ← ofList, ofList_labels]

theorem unionAll_eq (s : TaintSet) (ts : List TaintSet) :
    s.unionAll ts = ofList (s.labels ++ ts.flatMap labels) := by
  have hfold : s.unionAll ts = (ts.flatMap labels).foldl add s := by
    induction ts generalizing s with
    | nil => rfl
    | cons t rest ih =>
      rw [List.flatMap_cons, List.foldl_append, foldl_add_labels, ← ih]
      rfl
  rw [hfold, ofList_labels_append]

/-! ### Labels that can be compared -/

/-- Labels of one identity can be compared. -/
def Comparable (ls : List Label) : Prop :=
  ∀ l ∈ ls, ∀ m ∈ ls, l.identity = m.identity → l.isComparable m = true

theorem Comparable.subset (h : Comparable ls) (hsubset : ks ⊆ ls) : Comparable ks :=
  fun l hl m hm => h l (hsubset hl) m (hsubset hm)

theorem comparable_of_named (h : ∀ l ∈ ls, l.IsNamed) : Comparable ls :=
  fun l hl m hm _ => (h l hl).isComparable (h m hm)

/-- Adds a label to a set, if it can be compared with the one that it meets. -/
def add? (s : TaintSet) (l : Label) : Result TaintSet := do
  let _ ← (s.labels.find? (fun m => m.identity = l.identity)).mapM (fun m => m.join? l)
  return s.add l

theorem yields_add? (s : TaintSet) (l : Label) :
    Result.Yields (fun _ => ¬ Comparable (s.labels ++ [l])) (· = s.add l) (s.add? l) := by
  have hjoin : ∀ m ∈ s.labels.find? (fun m => m.identity = l.identity),
      Result.Yields (fun _ => ¬ Comparable (s.labels ++ [l])) (fun _ => True) (m.join? l) := by
    intro m hm
    rw [Label.join?]
    split
    · trivial
    · next hnot =>
      intro hcomparable
      refine hnot (hcomparable m ?_ l ?_ ?_)
      · exact List.mem_append_left _ (List.mem_of_find?_eq_some hm)
      · exact List.mem_append_right _ List.mem_cons_self
      · simpa using List.find?_some hm
  exact (Result.yields_mapM_option hjoin).bind fun _ _ => rfl

theorem yields_foldlM_add? (s : TaintSet) (ks : List Label) :
    Result.Yields (fun _ => ¬ Comparable (s.labels ++ ks)) (· = ks.foldl add s) (ks.foldlM add? s) := by
  induction ks generalizing s with
  | nil => rfl
  | cons l rest ih =>
    have hsubset : (s.labels ++ l :: rest) = (s.labels ++ [l]) ++ rest := by simp
    rw [List.foldlM_cons, hsubset]
    refine ((yields_add? s l).mono fun _ hnot h => ?_).bind ?_
    · exact hnot (h.subset (List.subset_append_left _ _))
    · rintro _ rfl
      refine (ih (s.add l)).mono fun _ hnot h => hnot (h.subset fun m hm => ?_)
      have hheld := ((condenses_labels s).add l).subset
      exact List.mem_append.2 ((List.mem_append.1 hm).imp_left fun hm => hheld hm)

theorem yields_ofList? (ls : List Label) :
    Result.Yields (fun _ => ¬ Comparable ls) (· = ofList ls) (ofList? ls) :=
  yields_foldlM_add? empty ls

end TaintSet

/-! ### Ways of building a set -/

/-- A way of building a set from labels: from a list of them, by adding one, by uniting a set with some others, or
by joining some sets. -/
inductive Build where
  | list (ls : List Label)
  | add (b : Build) (l : Label)
  | union (b : Build) (others : List Build)
  | join (parts : List Build)

namespace Build

@[elab_as_elim, induction_eliminator]
theorem induction {motive : Build → Prop} (list : ∀ ls, motive (.list ls)) (add : ∀ b l, motive b → motive (.add b l))
    (union : ∀ b others, motive b → (∀ o ∈ others, motive o) → motive (.union b others))
    (join : ∀ parts, (∀ p ∈ parts, motive p) → motive (.join parts)) : ∀ b, motive b
  | .list ls => list ls
  | .add b l => add b l (induction list add union join b)
  | .union b others => union b others (induction list add union join b) fun o _ => induction list add union join o
  | .join parts => join parts fun p _ => induction list add union join p

mutual

def labels : Build → List Label
  | .list ls => ls
  | .add b l => b.labels ++ [l]
  | .union b others => b.labels ++ labelsOf others
  | .join parts => labelsOf parts

def labelsOf : List Build → List Label
  | [] => []
  | b :: rest => b.labels ++ labelsOf rest

end

mutual

def set : Build → TaintSet
  | .list ls => .ofList ls
  | .add b l => b.set.add l
  | .union b others => b.set.unionAll (setsOf others)
  | .join parts => .join (setsOf parts)

def setsOf : List Build → List TaintSet
  | [] => []
  | b :: rest => b.set :: setsOf rest

end

mutual

/-- The set, if the labels that meet on the way can be compared. -/
def set? : Build → Result TaintSet
  | .list ls => TaintSet.ofList? ls
  | .add b l => do TaintSet.ofList? ((← b.set?).labels ++ [l])
  | .union b others => do (← b.set?).unionAll? (← setsOf? others)
  | .join parts => do TaintSet.empty.unionAll? (← setsOf? parts)

def setsOf? : List Build → Result (List TaintSet)
  | [] => .ok []
  | b :: rest => do return (← b.set?) :: (← setsOf? rest)

end

variable {ls : List Label} {s : TaintSet} {parts : List Build}

theorem condenses_unionAll (hs : s.Condenses ls) (h : ∀ p ∈ parts, p.set.Condenses p.labels) :
    (s.unionAll (setsOf parts)).Condenses (ls ++ labelsOf parts) := by
  induction parts generalizing s ls with
  | nil => simpa [labelsOf, setsOf, TaintSet.unionAll] using hs
  | cons p rest ih =>
    obtain ⟨hp, hrest⟩ := List.forall_mem_cons.1 h
    rw [labelsOf, ← List.append_assoc]
    exact ih (hs.union hp) hrest

/-- However a set is built, it condenses the labels that go into it. -/
theorem condenses_set (b : Build) : b.set.Condenses b.labels := by
  induction b with
  | list ls => exact TaintSet.condenses_ofList ls
  | add b l ih => exact ih.add l
  | union b others ih ihs => exact condenses_unionAll ih ihs
  | join parts ih => exact condenses_unionAll .empty ih

/-! ### Building sets of labels that can be compared -/

theorem flatMap_labels_subset (parts : List Build) :
    (setsOf parts).flatMap TaintSet.labels ⊆ labelsOf parts := by
  induction parts with
  | nil => exact List.Subset.refl _
  | cons p rest ih =>
    intro l hl
    rw [setsOf, List.flatMap_cons, List.mem_append] at hl
    rw [labelsOf, List.mem_append]
    exact hl.imp (fun h => (condenses_set p).subset h) fun h => ih h

theorem yields_setsOf?
    (h : ∀ p ∈ parts, Result.Yields (fun _ => ¬ TaintSet.Comparable p.labels) (· = p.set) p.set?) :
    Result.Yields (fun _ => ¬ TaintSet.Comparable (labelsOf parts)) (· = setsOf parts) (setsOf? parts) := by
  induction parts with
  | nil => rfl
  | cons p rest ih =>
    obtain ⟨hp, hrest⟩ := List.forall_mem_cons.1 h
    refine (hp.mono fun _ hnot hall => hnot (hall.subset (List.subset_append_left _ _))).bind ?_
    rintro _ rfl
    refine ((ih hrest).mono fun _ hnot hall => hnot (hall.subset (List.subset_append_right _ _))).bind ?_
    rintro _ rfl
    rfl

theorem yields_unionAll? (ls : List Label) (parts : List Build) (hs : s.labels ⊆ ls) :
    Result.Yields (fun _ => ¬ TaintSet.Comparable (ls ++ labelsOf parts)) (· = s.unionAll (setsOf parts))
      (s.unionAll? (setsOf parts)) := by
  rw [TaintSet.unionAll_eq]
  refine (TaintSet.yields_ofList? _).mono fun _ hnot hall => hnot (hall.subset fun l hl => ?_)
  exact List.mem_append.2 ((List.mem_append.1 hl).imp (fun h => hs h) fun h => flatMap_labels_subset parts h)

/-- Building comes to the set, or it meets labels of one identity that cannot be compared. -/
theorem yields_set? (b : Build) :
    Result.Yields (fun _ => ¬ TaintSet.Comparable b.labels) (· = b.set) b.set? := by
  induction b with
  | list ls => exact TaintSet.yields_ofList? ls
  | add b l ih =>
    refine (ih.mono fun _ hnot hall => hnot (hall.subset (List.subset_append_left _ _))).bind ?_
    rintro _ rfl
    have hadd := TaintSet.yields_ofList? (b.set.labels ++ [l])
    rw [TaintSet.ofList_labels_append] at hadd
    refine hadd.mono fun _ hnot hall => hnot (hall.subset fun m hm => ?_)
    exact List.mem_append.2 ((List.mem_append.1 hm).imp_left fun h => (condenses_set b).subset h)
  | union b others ih ihs =>
    refine (ih.mono fun _ hnot hall => hnot (hall.subset (List.subset_append_left _ _))).bind ?_
    rintro _ rfl
    refine ((yields_setsOf? ihs).mono fun _ hnot hall => hnot (hall.subset (List.subset_append_right _ _))).bind ?_
    rintro _ rfl
    exact yields_unionAll? b.labels others (condenses_set b).subset
  | join parts ih =>
    refine (yields_setsOf? ih).bind ?_
    rintro _ rfl
    exact yields_unionAll? [] parts (List.nil_subset [])

/-- **What a set holds depends neither on the order nor on the nesting in which its labels were put in.** -/
theorem condenses_in_any_order (b : Build) (h : b.labels.Perm ls) :
    b.set.Condenses ls ∧ (∀ s, b.set? = .ok s → s = b.set) ∧
      ((∀ l ∈ ls, l.IsNamed) → b.set? = .ok b.set) ∧
      ∀ c : Build, c.labels.Perm ls → ∀ i, Option.Rel Label.Alike (b.set.find? i) (c.set.find? i) := by
  have hset := (condenses_set b).perm h
  refine ⟨hset, fun s hs => (yields_set? b).of_eq_ok hs, fun hnamed => ?_, fun c hc i => ?_⟩
  · obtain ⟨s, hs, rfl⟩ | ⟨fault, -, hnot⟩ := (yields_set? b).cases
    · exact hs
    · exact absurd ((TaintSet.comparable_of_named hnamed).subset h.subset) hnot
  · have hother := (condenses_set c).perm hc
    cases hb : b.set.find? i with
    | none =>
      have hnone : c.set.find? i = none := by
        rw [TaintSet.find?_eq_none_iff, Bool.eq_false_iff, Ne, hother.has_iff, ← hset.has_iff,
          TaintSet.find?_eq_none_iff.1 hb]
        exact Bool.false_ne_true
      rw [hnone]
      exact .none
    | some l =>
      obtain ⟨m, hm⟩ := Option.isSome_iff_exists.1 ((hother.has_iff i).2
        ((hset.has_iff i).1 (Option.isSome_iff_exists.2 ⟨l, hb⟩)))
      rw [hm]
      exact .some ((hset.isFirst i l hb).alike (hother.isFirst i m hm))

/-- Three ways of a cookie, of which one crossed code that is not modelled, and a header. -/
def readings : List Label :=
  [(Label.source .cookie "f::read" none).markUnknown "f::call",
    ((Label.source .cookie "g::read" none).extend "g::copy" false).extend "g::store" false,
    (Label.source .cookie "g::read" none).extend "g::store" false, .source .header "f::head" none]

theorem isNamed_of_mem_readings : ∀ l ∈ readings, l.IsNamed := by
  refine List.forall_mem_cons.2 ⟨(Label.isNamed_source _ _ _).extend _ _, ?_⟩
  refine List.forall_mem_cons.2 ⟨((Label.isNamed_source _ _ _).extend _ _).extend _ _, ?_⟩
  refine List.forall_mem_cons.2 ⟨(Label.isNamed_source _ _ _).extend _ _, ?_⟩
  exact List.forall_mem_singleton.2 (Label.isNamed_source _ _ _)

/-- The same labels, put together from the end. -/
def nested : Build :=
  .union (.add (.list (readings.drop 3)) readings[2])
    [.list [], .join [.list (readings.take 1), .union (.list []) [.list [readings[1]]]]]

theorem condenses_nested : nested.labels.Perm readings ∧ nested.set? = .ok nested.set ∧
    nested.set.Condenses readings ∧
      (nested.set.find? ⟨.singleton .cookie, none, ∅⟩).map Label.nodes = some (["g::read", "g::store"].map .text) ∧
        ∀ i, Option.Rel Label.Alike (nested.set.find? i) ((Build.list readings).set.find? i) := by
  have hperm : nested.labels.Perm readings := by decide +kernel
  obtain ⟨hcondenses, -, hreturns, halike⟩ := condenses_in_any_order nested hperm
  exact ⟨hperm, hreturns isNamed_of_mem_readings, hcondenses, by decide +kernel, halike (.list readings) (.refl _)⟩

end Build

end TaintFlow
