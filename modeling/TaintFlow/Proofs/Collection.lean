import TaintFlow.Collection.Insertion
import TaintFlow.Collection.OrderedMap
import TaintFlow.Collection.OrderedSet
import TaintFlow.Collection.Table

/-!
# Looking things up in sets, maps and tables

Every collection is read through one view: membership for sets, `get?` for maps and tables.  An entry
stands in a map exactly when it is found there (`OrderedMap.mem_entries_iff`, `Table.mem_entries_iff`),
a map written from entries with different keys is found entry by entry (`OrderedMap.get?_ofList`), and
two maps agree exactly when they agree key by key (`OrderedMap.agrees_iff`).  A list that was sorted is
in order (`Insertion.pairwise_sort`).
-/

namespace TaintFlow

theorem mem_iff_lookup_eq_some {κ α : Type} [DecidableEq κ] {l : List (κ × α)}
    (h : (l.map Prod.fst).Nodup) {key : κ} {value : α} :
    (key, value) ∈ l ↔ l.lookup key = some value := by
  induction l with
  | nil => simp
  | cons entry rest ih =>
    obtain ⟨k, v⟩ := entry
    rw [List.map_cons, List.nodup_cons] at h
    obtain ⟨hk, hrest⟩ := h
    rw [List.lookup_cons, List.mem_cons, Prod.mk.injEq]
    by_cases he : key = k
    · subst he
      have hnot : (key, value) ∉ rest := fun hm => hk (List.mem_map.2 ⟨_, hm, rfl⟩)
      simp [hnot, eq_comm]
    · have hne : (key == k) = false := beq_eq_false_iff_ne.2 he
      simp [he, hne, ih hrest]

theorem lookup_map_snd {κ α β : Type} [BEq κ] (g : α → β) (l : List (κ × α)) (key : κ) :
    (l.map (fun p => (p.1, g p.2))).lookup key = (l.lookup key).map g := by
  induction l with
  | nil => rfl
  | cons p rest ih =>
    obtain ⟨k, v⟩ := p
    simp only [List.map_cons, List.lookup_cons, ih]
    cases key == k <;> rfl

theorem lookup_map_pair {κ α : Type} [DecidableEq κ] (g : κ → α) (l : List κ) (key : κ) :
    (l.map (fun k => (k, g k))).lookup key = if key ∈ l then some (g key) else none := by
  induction l with
  | nil => rfl
  | cons k rest ih =>
    rw [List.map_cons, List.lookup_cons, ih]
    by_cases h : key = k
    · simp [h]
    · have hne : (key == k) = false := beq_eq_false_iff_ne.2 h
      simp [h, hne]

/-- A fold over entries with different keys, of which one shows in a view, as its own step leaves it. -/
theorem view_foldl {σ κ α β : Type} [DecidableEq κ] (view : σ → β) (step : σ → κ × α → σ)
    (change : β → α → β) {key : κ} {l : List (κ × α)} (h : (l.map Prod.fst).Nodup)
    (hother : ∀ s entry, entry.1 ≠ key → view (step s entry) = view s)
    (hown : ∀ s a, (key, a) ∈ l → view (step s (key, a)) = change (view s) a) (s : σ) :
    view (l.foldl step s) = (l.lookup key).elim (view s) (change (view s)) := by
  induction l generalizing s with
  | nil => rfl
  | cons entry rest ih =>
    obtain ⟨k, a⟩ := entry
    obtain ⟨hk, hrest⟩ := List.nodup_cons.1 h
    rw [List.foldl_cons, ih hrest fun s a ha => hown s a (List.mem_cons_of_mem _ ha), List.lookup_cons]
    by_cases he : key = k
    · subst he
      have hnone : rest.lookup key = none := by
        refine List.lookup_eq_none_iff.2 fun p hp => bne_iff_ne.2 ?_
        rintro rfl
        exact hk (List.mem_map.2 ⟨p, hp, rfl⟩)
      rw [hnone, beq_self_eq_true, hown s a List.mem_cons_self]
      rfl
    · rw [beq_false_of_ne he, hother s _ (Ne.symm he)]

theorem foldl_max_le_iff {α β : Type} [LE β] [Max β] [Std.LawfulOrderSup β] (value : α → β) {l : List α}
    {n k : β} : l.foldl (fun h a => max h (value a)) n ≤ k ↔ n ≤ k ∧ ∀ a ∈ l, value a ≤ k := by
  induction l generalizing n with
  | nil => simp
  | cons b rest ih =>
    rw [List.foldl_cons, ih, List.forall_mem_cons, Std.max_le_iff, and_assoc]

theorem mem_zip_range_iff {α : Type} {l : List α} {index : Nat} {a : α} :
    (index, a) ∈ (List.range l.length).zip l ↔ l[index]? = some a := by
  rw [List.mem_iff_getElem?]
  constructor
  · rintro ⟨k, hk⟩
    obtain ⟨hindex, ha⟩ := List.getElem?_zip_eq_some.1 hk
    obtain ⟨-, rfl⟩ : k < l.length ∧ k = index := by
      simpa [List.getElem?_eq_some_iff] using hindex
    exact ha
  · intro ha
    obtain ⟨hlt, -⟩ := List.getElem?_eq_some_iff.1 ha
    exact ⟨index, List.getElem?_zip_eq_some.2 ⟨List.getElem?_range hlt, ha⟩⟩

namespace Insertion

variable {α : Type} {precedes : α → α → Bool}

theorem pairwise_splitRun (related : α → α → Bool)
    (htrans : ∀ a b c, related a b = true → related b c = true → related a c = true) (x : α)
    (xs : List α) : (x :: (splitRun related x xs).1).Pairwise (fun a b => related a b = true) := by
  induction xs generalizing x with
  | nil => exact List.pairwise_singleton _ x
  | cons y rest ih =>
    rw [splitRun]
    split
    · next hxy =>
      obtain ⟨hy, hrun⟩ := List.pairwise_cons.1 (ih y)
      refine List.pairwise_cons.2 ⟨fun z hz => ?_, List.pairwise_cons.2 ⟨hy, hrun⟩⟩
      rcases List.mem_cons.1 hz with rfl | hz
      · exact hxy
      · exact htrans x y z hxy (hy z hz)
    · exact List.pairwise_singleton _ x

section Order

variable (hnot : ∀ a b c, precedes b a = false → precedes c b = false → precedes c a = false)

include hnot

/-- The place of an element in a sorted list: it precedes what stands there or behind, and nothing that
stands before. -/
theorem place_spec (x : α) {xs : List α} (hsorted : xs.Pairwise (fun a b => precedes b a = false))
    (low high : Nat) (hle : low ≤ high) (hhigh : high ≤ xs.length)
    (hbefore : ∀ i y, xs[i]? = some y → i < low → precedes x y = false)
    (hafter : ∀ i y, xs[i]? = some y → high ≤ i → precedes x y = true) :
    ∀ i y, xs[i]? = some y → (i < place precedes x xs low high → precedes x y = false) ∧
      (place precedes x xs low high ≤ i → precedes x y = true) := by
  have hrising : ∀ {i j : Nat} {a b}, xs[i]? = some a → xs[j]? = some b → i < j →
      precedes b a = false := by
    intro i j a b hi hj hlt
    obtain ⟨hi', rfl⟩ := List.getElem?_eq_some_iff.1 hi
    obtain ⟨hj', rfl⟩ := List.getElem?_eq_some_iff.1 hj
    exact List.pairwise_iff_getElem.1 hsorted i j hi' hj' hlt
  fun_induction place precedes x xs low high with
  | case1 low high hlt middle y hy hxy ih =>
    -- what stands behind the middle is preceded as well
    refine ih (by omega) (by omega) hbefore fun i z hz hi => ?_
    rcases Nat.lt_or_eq_of_le hi with hi | rfl
    · refine Bool.not_eq_false _ ▸ fun hxz => ?_
      exact Bool.false_ne_true ((hnot y z x (hrising hy hz hi) hxz).symm.trans hxy)
    · obtain rfl : y = z := Option.some.inj (hy.symm.trans hz)
      exact hxy
  | case2 low high hlt middle y hy hxy ih =>
    refine ih (by omega) (by omega) (fun i z hz hi => ?_) hafter
    rcases Nat.lt_or_eq_of_le (Nat.lt_succ_iff.1 hi) with hi | rfl
    · exact hnot z y x (hrising hz hy hi) (Bool.not_eq_true _ ▸ hxy)
    · obtain rfl : y = z := Option.some.inj (hy.symm.trans hz)
      exact Bool.not_eq_true _ ▸ hxy
  | case3 low high hlt middle hnone =>
    have hmiddle := List.getElem?_eq_none_iff.1 hnone
    omega
  | case4 low high hge =>
    exact fun i y hy => ⟨hbefore i y hy, fun hi => hafter i y hy (by omega)⟩

variable (hasymm : ∀ a b, precedes a b = true → precedes b a = false)

include hasymm

theorem pairwise_leadingRun (xs : List α) :
    (leadingRun precedes xs).1.Pairwise (fun a b => precedes b a = false) := by
  match xs with
  | [] => exact .nil
  | [x] => exact List.pairwise_singleton _ x
  | x :: y :: rest =>
    rw [leadingRun]
    split
    · have htrans : ∀ a b c, precedes b a = true → precedes c b = true → precedes c a = true := by
        intro a b c hba hcb
        refine Bool.not_eq_false _ ▸ fun hca => ?_
        have hab := hnot b a c (hasymm b a hba) hca
        exact Bool.false_ne_true (hab.symm.trans hcb)
      have hfalling := pairwise_splitRun (fun a b => precedes b a) htrans x (y :: rest)
      exact List.pairwise_reverse.2 (hfalling.imp fun {a b} hba => hasymm b a hba)
    · have hrising := pairwise_splitRun (fun a b => !precedes b a)
        (fun a b c hab hbc => by simpa using hnot a b c (by simpa using hab) (by simpa using hbc))
        x (y :: rest)
      exact hrising.imp fun {a b} hab => by simpa using hab

theorem pairwise_insert {xs : List α} (hsorted : xs.Pairwise (fun a b => precedes b a = false))
    (x : α) : (insert precedes xs x).Pairwise (fun a b => precedes b a = false) := by
  have hplace := place_spec hnot x hsorted 0 xs.length (Nat.zero_le _) (Nat.le_refl _)
    (fun i y _ hi => absurd hi (Nat.not_lt_zero i)) fun i y hy hi => by
      rw [List.getElem?_eq_none hi] at hy
      cases hy
  rw [insert]
  generalize place precedes x xs 0 xs.length = p at hplace
  have hbehind : ∀ y ∈ xs.drop p, precedes x y = true := by
    intro y hy
    obtain ⟨i, hi⟩ := List.mem_iff_getElem?.1 hy
    rw [List.getElem?_drop] at hi
    exact (hplace (p + i) y hi).2 (Nat.le_add_right p i)
  have hfront : ∀ y ∈ xs.take p, precedes x y = false := by
    intro y hy
    obtain ⟨i, hi⟩ := List.mem_iff_getElem?.1 hy
    rw [List.getElem?_take] at hi
    split at hi
    · next hlt => exact (hplace i y hi).1 hlt
    · cases hi
  have hwhole : (xs.take p ++ xs.drop p).Pairwise (fun a b => precedes b a = false) := by
    rwa [List.take_append_drop]
  obtain ⟨htake, hdrop, hacross⟩ := List.pairwise_append.1 hwhole
  refine List.pairwise_append.2 ⟨htake, List.pairwise_cons.2 ⟨fun y hy => ?_, hdrop⟩, ?_⟩
  · exact hasymm x y (hbehind y hy)
  · intro a ha b hb
    rcases List.mem_cons.1 hb with rfl | hb
    · exact hfront a ha
    · exact hacross a ha b hb

/-- **Sorting sorts**: nothing precedes what stands before it. -/
theorem pairwise_sort (xs : List α) :
    (sort precedes xs).Pairwise (fun a b => precedes b a = false) := by
  have hfold : ∀ ys run : List α, run.Pairwise (fun a b => precedes b a = false) →
      (ys.foldl (insert precedes) run).Pairwise (fun a b => precedes b a = false) := by
    intro ys
    induction ys with
    | nil => exact fun run hrun => hrun
    | cons y rest ih => exact fun run hrun => ih _ (pairwise_insert hnot hasymm hrun y)
  exact hfold _ _ (pairwise_leadingRun hnot hasymm xs)

end Order

theorem pairwise_sort_on {κ : Type} [Ord κ] [Std.TransOrd κ] (key : α → κ) (xs : List α) :
    (sort (fun a b => compare (key a) (key b) = .lt) xs).Pairwise
      (fun a b => (compare (key a) (key b)).isLE = true) := by
  refine (pairwise_sort (fun a b c hba hcb => ?_) (fun a b hab => ?_) xs).imp fun {a b} hab => ?_
  · rw [decide_eq_false_iff_not, Ordering.ne_lt_iff_isGE] at *
    exact Std.TransCmp.isGE_trans hcb hba
  · exact decide_eq_false (Std.OrientedCmp.not_lt_of_lt (of_decide_eq_true hab))
  · rw [decide_eq_false_iff_not, Ordering.ne_lt_iff_isGE] at hab
    exact Std.OrientedCmp.isGE_iff_isLE.1 hab

section Congr

variable {precedes' : α → α → Bool}

theorem place_congr {x : α} {xs : List α} (h : ∀ y ∈ xs, precedes x y = precedes' x y) (low high : Nat) :
    place precedes x xs low high = place precedes' x xs low high := by
  fun_induction place precedes x xs low high with
  | case1 low high hlt middle y hy hxy ih =>
    rw [ih, place.eq_1 precedes' x xs low high, dif_pos hlt]
    simp only [middle] at hy ⊢
    rw [hy]
    dsimp only
    rw [if_pos ((h y (List.mem_of_getElem? hy)).symm.trans hxy)]
  | case2 low high hlt middle y hy hxy ih =>
    rw [ih, place.eq_1 precedes' x xs low high, dif_pos hlt]
    simp only [middle] at hy ⊢
    rw [hy]
    dsimp only
    rw [if_neg fun he => hxy ((h y (List.mem_of_getElem? hy)).trans he)]
  | case3 low high hlt middle hnone =>
    rw [place.eq_1 precedes' x xs low high, dif_pos hlt]
    simp only [middle] at hnone ⊢
    rw [hnone]
  | case4 low high hge => rw [place.eq_1 precedes' x xs low high, dif_neg hge]

theorem splitRun_congr {related related' : α → α → Bool} {x : α} {xs : List α}
    (h : ∀ a ∈ x :: xs, ∀ b ∈ x :: xs, related a b = related' a b) :
    splitRun related x xs = splitRun related' x xs := by
  induction xs generalizing x with
  | nil => rfl
  | cons y rest ih =>
    have hrest : splitRun related y rest = splitRun related' y rest :=
      ih fun a ha b hb => h a (List.mem_cons_of_mem x ha) b (List.mem_cons_of_mem x hb)
    rw [splitRun, splitRun, hrest, h x List.mem_cons_self y (List.mem_cons_of_mem x List.mem_cons_self)]

theorem leadingRun_congr {xs : List α} (h : ∀ a ∈ xs, ∀ b ∈ xs, precedes a b = precedes' a b) :
    leadingRun precedes xs = leadingRun precedes' xs := by
  match xs with
  | [] => rfl
  | [x] => rfl
  | x :: y :: rest =>
    have hfalling : splitRun (fun a b => precedes b a) x (y :: rest) =
        splitRun (fun a b => precedes' b a) x (y :: rest) := splitRun_congr fun a ha b hb => h b hb a ha
    have hrising : splitRun (fun a b => !precedes b a) x (y :: rest) =
        splitRun (fun a b => !precedes' b a) x (y :: rest) :=
      splitRun_congr fun a ha b hb => congrArg (!·) (h b hb a ha)
    rw [leadingRun, leadingRun, hfalling, hrising,
      h y (List.mem_cons_of_mem x List.mem_cons_self) x List.mem_cons_self]

/-- **Sorting looks at how the members of the list compare, and at nothing else.** -/
theorem sort_congr {xs : List α} (h : ∀ a ∈ xs, ∀ b ∈ xs, precedes a b = precedes' a b) :
    sort precedes xs = sort precedes' xs := by
  have hfold : ∀ ys run : List α, (∀ a ∈ run ++ ys, ∀ b ∈ run ++ ys, precedes a b = precedes' a b) →
      ys.foldl (insert precedes) run = ys.foldl (insert precedes') run := by
    intro ys
    induction ys with
    | nil => exact fun _ _ => rfl
    | cons y rest ih =>
      intro run hall
      have hplace : place precedes y run 0 run.length = place precedes' y run 0 run.length :=
        place_congr (fun z hz => hall y (List.mem_append_right run List.mem_cons_self) z
          (List.mem_append_left _ hz)) 0 run.length
      have hinsert : insert precedes run y = insert precedes' run y := by
        rw [insert, insert, hplace]
      rw [List.foldl_cons, List.foldl_cons, ← hinsert]
      have hperm : (insert precedes run y ++ rest).Perm (run ++ y :: rest) :=
        ((insert_perm precedes run y).append_right rest).trans List.perm_middle.symm
      exact ih _ fun a ha b hb => hall a (hperm.subset ha) b (hperm.subset hb)
  have hperm := leadingRun_perm precedes xs
  rw [sort, sort, ← leadingRun_congr h]
  exact hfold _ _ fun a ha b hb => h a (hperm.subset ha) b (hperm.subset hb)

end Congr

end Insertion

namespace OrderedSet

variable {α : Type} [Ord α]

theorem isEmpty_iff {s : OrderedSet α} : s.isEmpty = true ↔ ∀ a, a ∉ s := by
  rw [isEmpty, List.isEmpty_iff]
  exact List.eq_nil_iff_forall_not_mem

theorem isEmpty_eq_false_iff {s : OrderedSet α} : s.isEmpty = false ↔ ∃ a, a ∈ s := by
  rw [← Bool.not_eq_true, isEmpty_iff]
  simp

theorem isSubset_iff [DecidableEq α] {s t : OrderedSet α} :
    s.isSubset t = true ↔ ∀ a ∈ s, a ∈ t := by
  simp [isSubset, mem_def]

theorem mem_erase [DecidableEq α] {s : OrderedSet α} {a x : α} :
    x ∈ s.erase a ↔ x ∈ s ∧ x ≠ a := by
  simp [erase]

theorem mem_diff [DecidableEq α] {s t : OrderedSet α} {x : α} :
    x ∈ s.diff t ↔ x ∈ s ∧ x ∉ t := by
  simp [diff]

theorem mem_foldl_union [Std.TransOrd α] [Std.LawfulEqOrd α] {l : List (OrderedSet α)}
    {s : OrderedSet α} {a : α} : a ∈ l.foldl (fun found t => found ∪ t) s ↔ a ∈ s ∨ ∃ t ∈ l, a ∈ t := by
  induction l generalizing s with
  | nil => simp
  | cons t rest ih =>
    rw [List.foldl_cons, ih, mem_union, or_assoc]
    simp only [List.mem_cons, exists_eq_or_imp]

theorem insert_comm [Std.TransOrd α] [Std.LawfulEqOrd α] (s : OrderedSet α) (a b : α) :
    (s.insert a).insert b = (s.insert b).insert a := by
  refine eq_of_mem_iff fun x => ?_
  simp only [mem_insert]
  exact or_left_comm

theorem ofList_perm [Std.TransOrd α] [Std.LawfulEqOrd α] {l l' : List α} (h : l.Perm l') :
    ofList l = ofList l' :=
  eq_of_mem_iff fun x => by rw [mem_ofList, mem_ofList, h.mem_iff]

theorem nodup_toList [Std.TransOrd α] (s : OrderedSet α) : s.toList.Nodup := by
  refine s.increasing.imp fun {a b} hab he => ?_
  rw [he, Std.ReflOrd.compare_self] at hab
  exact absurd hab (by decide)

end OrderedSet

namespace OrderedMap

variable {κ α : Type} [Ord κ] [Std.TransOrd κ] [Std.LawfulEqOrd κ] [DecidableEq κ]

omit [Std.TransOrd κ] [Std.LawfulEqOrd κ] in
theorem contains_iff {m : OrderedMap κ α} {key : κ} :
    m.contains key = true ↔ ∃ value, m.get? key = some value :=
  Option.isSome_iff_exists

omit [Std.LawfulEqOrd κ] [DecidableEq κ] in
theorem nodup_keys (m : OrderedMap κ α) : (m.entries.map Prod.fst).Nodup := by
  refine List.pairwise_map.2 (m.increasing.imp fun {a b} hab he => ?_)
  rw [he, Std.ReflOrd.compare_self] at hab
  exact absurd hab (by decide)

omit [Std.LawfulEqOrd κ] in
theorem mem_entries_iff {m : OrderedMap κ α} {key : κ} {value : α} :
    (key, value) ∈ m.entries ↔ m.get? key = some value :=
  mem_iff_lookup_eq_some m.nodup_keys

omit [Std.LawfulEqOrd κ] in
theorem mem_keys_iff {m : OrderedMap κ α} {key : κ} :
    key ∈ m.keys ↔ ∃ value, m.get? key = some value := by
  rw [keys, List.mem_map]
  constructor
  · rintro ⟨⟨k, v⟩, h, rfl⟩
    exact ⟨v, mem_entries_iff.1 h⟩
  · rintro ⟨v, h⟩
    exact ⟨(key, v), mem_entries_iff.2 h, rfl⟩

omit [Std.LawfulEqOrd κ] in
theorem mem_values_iff {m : OrderedMap κ α} {value : α} :
    value ∈ m.values ↔ ∃ key, m.get? key = some value := by
  rw [values, List.mem_map]
  constructor
  · rintro ⟨⟨k, v⟩, h, rfl⟩
    exact ⟨k, mem_entries_iff.1 h⟩
  · rintro ⟨k, h⟩
    exact ⟨(k, value), mem_entries_iff.2 h, rfl⟩

theorem get?_set (m : OrderedMap κ α) (key other : κ) (value : α) :
    (m.set key value).get? other = if other = key then some value else m.get? other := by
  by_cases h : other = key
  · rw [if_pos h, h, get?_set_self]
  · rw [if_neg h, get?_set_ne m value h]

theorem exists_get?_set {m : OrderedMap κ α} {other : κ} (h : ∃ a, m.get? other = some a) (key : κ)
    (value : α) : ∃ a, (m.set key value).get? other = some a := by
  rw [get?_set]
  split
  · exact ⟨value, rfl⟩
  · exact h

theorem getD_set (m : OrderedMap κ α) (key other : κ) (value default : α) :
    (m.set key value).getD other default = if other = key then value else m.getD other default := by
  rw [getD, get?_set]
  by_cases h : other = key <;> simp [h, getD]

theorem get?_foldl_set (l : List (κ × α)) (m : OrderedMap κ α) (key : κ)
    (h : (l.map Prod.fst).Nodup) :
    (l.foldl (fun m entry => m.set entry.1 entry.2) m).get? key = (l.lookup key).or (m.get? key) := by
  induction l generalizing m with
  | nil => simp
  | cons entry rest ih =>
    obtain ⟨k, v⟩ := entry
    rw [List.map_cons, List.nodup_cons] at h
    rw [List.foldl_cons, ih _ h.2, get?_set, List.lookup_cons]
    by_cases he : key = k
    · subst he
      have hnone : rest.lookup key = none := by
        rw [List.lookup_eq_none_iff]
        intro p hp
        have hne : key ≠ p.1 := fun hpk => h.1 (List.mem_map.2 ⟨p, hp, hpk.symm⟩)
        simpa using hne
      simp [hnone]
    · have hne : (key == k) = false := beq_eq_false_iff_ne.2 he
      simp [he, hne]

theorem get?_ofList {l : List (κ × α)} (h : (l.map Prod.fst).Nodup) (key : κ) :
    (ofList l).get? key = l.lookup key := by
  rw [ofList, get?_foldl_set l _ key h]
  exact Option.or_none

omit [Ord κ] [Std.TransOrd κ] [Std.LawfulEqOrd κ] in
/-- Maps with equal keys are related exactly when their values are, place by place. -/
theorem agrees_entries {same : α → α → Bool} {l r : List (κ × α)}
    (hl : (l.map Prod.fst).Nodup) (hk : l.map Prod.fst = r.map Prod.fst) :
    (((l.map Prod.snd).zip (r.map Prod.snd)).all (fun pair => same pair.1 pair.2)) = true ↔
      ∀ key a b, l.lookup key = some a → r.lookup key = some b → same a b = true := by
  induction l generalizing r with
  | nil => simp
  | cons entry rest ih =>
    obtain ⟨k, v⟩ := entry
    cases r with
    | nil => simp at hk
    | cons entry' rest' =>
      obtain ⟨k', v'⟩ := entry'
      simp only [List.map_cons, List.cons.injEq] at hk
      obtain ⟨rfl, hk⟩ := hk
      rw [List.map_cons, List.nodup_cons] at hl
      simp only [List.map_cons, List.zip_cons_cons, List.all_cons, Bool.and_eq_true, ih hl.2 hk]
      constructor
      · rintro ⟨hv, hrest⟩ key a b ha hb
        rw [List.lookup_cons] at ha hb
        by_cases he : key = k
        · subst he
          simp only [BEq.rfl, Option.some.injEq] at ha hb
          rw [← ha, ← hb]
          exact hv
        · have hne : (key == k) = false := beq_eq_false_iff_ne.2 he
          rw [hne] at ha hb
          exact hrest key a b ha hb
      · intro h
        refine ⟨h k v v' (by simp) (by simp), fun key a b ha hb => ?_⟩
        have hne : (key == k) = false := by
          refine beq_eq_false_iff_ne.2 fun he => hl.1 ?_
          rw [← he]
          exact List.mem_map.2 ⟨(key, a), (mem_iff_lookup_eq_some hl.2).2 ha, rfl⟩
        exact h key a b (by rw [List.lookup_cons, hne]; exact ha)
          (by rw [List.lookup_cons, hne]; exact hb)

omit [Std.LawfulEqOrd κ] in
theorem agrees_iff {same : α → α → Bool} {m n : OrderedMap κ α} :
    m.agrees same n = true ↔ m.keys = n.keys ∧
      ∀ key a b, m.get? key = some a → n.get? key = some b → same a b = true := by
  rw [agrees, Bool.and_eq_true, beq_iff_eq]
  refine and_congr_right fun hk => ?_
  exact agrees_entries m.nodup_keys hk

omit [Std.LawfulEqOrd κ] in
/-- The keys of a map are determined by what is found in it. -/
theorem keys_eq_of_iff {m n : OrderedMap κ α}
    (h : ∀ key, (∃ a, m.get? key = some a) ↔ ∃ a, n.get? key = some a) : m.keys = n.keys := by
  refine OrderedSet.toList_eq_of_mem_iff (List.pairwise_map.2 m.increasing)
    (List.pairwise_map.2 n.increasing) fun key => ?_
  have := h key
  rw [← mem_keys_iff, ← mem_keys_iff] at this
  exact this

omit [Std.LawfulEqOrd κ] in
theorem eq_of_get?_eq {m n : OrderedMap κ α} (h : ∀ key, m.get? key = n.get? key) : m = n := by
  have hentries : m.entries = n.entries := by
    refine List.Perm.eq_of_pairwise ?_ m.increasing n.increasing ?_
    · intro a b _ _ hab hba
      have hswap : compare a.1 b.1 = (compare b.1 a.1).swap := Std.OrientedCmp.eq_swap
      rw [hba, hab] at hswap
      cases hswap
    · have hnodup : ∀ k : OrderedMap κ α, k.entries.Nodup := fun k =>
        List.Pairwise.of_map Prod.fst (fun _ _ hne he => hne (congrArg Prod.fst he)) k.nodup_keys
      refine (List.perm_ext_iff_of_nodup (hnodup m) (hnodup n)).2 ?_
      rintro ⟨key, value⟩
      rw [mem_entries_iff, mem_entries_iff, h]
  cases m
  cases n
  cases hentries
  rfl

theorem ofList_entries (m : OrderedMap κ α) : ofList m.entries = m :=
  eq_of_get?_eq fun key => get?_ofList m.nodup_keys key

theorem set_comm (m : OrderedMap κ α) {key other : κ} (a b : α) (h : key ≠ other) :
    (m.set key a).set other b = (m.set other b).set key a := by
  refine eq_of_get?_eq fun k => ?_
  simp only [get?_set]
  by_cases hk : k = key
  · simp [hk, h]
  · simp [hk]

end OrderedMap

namespace Table

variable {α : Type}

theorem eq_of_entries_eq {t u : Table α} (h : t.entries = u.entries) : t = u := by
  cases t
  cases u
  cases h
  rfl

theorem put_of_not_mem {name : String} {value : α} {l : List (String × α)} (h : name ∉ l.map Prod.fst) :
    put name value l = l ++ [(name, value)] := by
  induction l with
  | nil => rfl
  | cons entry rest ih =>
    rw [List.map_cons, List.mem_cons, not_or] at h
    rw [put, if_neg (Ne.symm h.1), ih h.2, List.cons_append]

/-- What is seen of the entries stays, if it stays at the one that is set. -/
theorem map_put {β : Type} {name : String} {value : α} {view : String × α → β} {l : List (String × α)} {old : α}
    (hold : l.lookup name = some old) (h : view (name, value) = view (name, old)) :
    (put name value l).map view = l.map view := by
  induction l with
  | nil => cases hold
  | cons entry rest ih =>
    obtain ⟨k, v⟩ := entry
    rw [List.lookup_cons] at hold
    rw [put]
    split
    · next he =>
      obtain rfl : k = name := he
      rw [beq_self_eq_true] at hold
      obtain rfl := Option.some.inj hold
      rw [List.map_cons, List.map_cons, h]
    · next hne =>
      rw [beq_false_of_ne (Ne.symm hne)] at hold
      rw [List.map_cons, List.map_cons, ih hold]

theorem mem_entries_iff {t : Table α} {name : String} {value : α} :
    (name, value) ∈ t.entries ↔ t.get? name = some value :=
  mem_iff_lookup_eq_some t.distinct

theorem mem_keys_iff {t : Table α} {name : String} :
    name ∈ t.keys ↔ ∃ value, t.get? name = some value := by
  rw [keys, List.mem_map]
  constructor
  · rintro ⟨⟨k, v⟩, h, rfl⟩
    exact ⟨v, mem_entries_iff.1 h⟩
  · rintro ⟨v, h⟩
    exact ⟨(name, v), mem_entries_iff.2 h, rfl⟩

theorem mem_values_iff {t : Table α} {value : α} :
    value ∈ t.values ↔ ∃ name, t.get? name = some value := by
  rw [values, List.mem_map]
  constructor
  · rintro ⟨⟨k, v⟩, h, rfl⟩
    exact ⟨k, mem_entries_iff.1 h⟩
  · rintro ⟨k, h⟩
    exact ⟨(k, value), mem_entries_iff.2 h, rfl⟩

theorem get?_set (t : Table α) (name other : String) (value : α) :
    (t.set name value).get? other = if other = name then some value else t.get? other := by
  by_cases h : other = name
  · rw [if_pos h, h, get?_set_self]
  · rw [if_neg h, get?_set_ne t value h]

theorem get?_erase (t : Table α) (name other : String) :
    (t.erase name).get? other = if other = name then none else t.get? other := by
  refine Option.ext fun value => ?_
  rw [← mem_entries_iff, erase, filter, List.mem_filter, mem_entries_iff]
  by_cases h : other = name <;> simp [h]

/-- Tables in which the same is found differ in the order of their entries only. -/
theorem entries_perm {t u : Table α} (h : ∀ name, u.get? name = t.get? name) :
    u.entries.Perm t.entries := by
  have hnodup : ∀ t : Table α, t.entries.Nodup := fun t =>
    List.Pairwise.of_map Prod.fst (fun _ _ hne he => hne (congrArg Prod.fst he)) t.distinct
  refine (List.perm_ext_iff_of_nodup (hnodup u) (hnodup t)).2 ?_
  rintro ⟨name, value⟩
  rw [mem_entries_iff, mem_entries_iff, h]

/-- A fold over a table whose steps can change places forgets the order of the table. -/
theorem foldl_entries_eq {β : Type} {t u : Table α} (h : u.entries.Perm t.entries)
    {step : β → String × α → β}
    (hcomm : ∀ (b : β) (x y : String × α), x.1 ≠ y.1 → step (step b x) y = step (step b y) x) (b : β) :
    u.entries.foldl step b = t.entries.foldl step b := by
  refine h.foldl_eq' (fun x hx y hy b => ?_) b
  obtain ⟨name, value⟩ := x
  obtain ⟨other, value'⟩ := y
  by_cases he : name = other
  · subst he
    obtain rfl : value = value' := Option.some.inj ((mem_entries_iff.1 hx).symm.trans (mem_entries_iff.1 hy))
    rfl
  · exact hcomm b _ _ he

end Table

end TaintFlow
