import Mathlib.Algebra.GroupWithZero.Nat
import Mathlib.Algebra.Order.BigOperators.Group.List
import Mathlib.Algebra.Order.Group.Nat
import Mathlib.Data.List.Pairwise
import TaintFlow.Proofs.CallGraph.Reach

/-!
# The search for components

The stack of the search falls into parts, one for each vertex on the way: the vertex itself and, above
it, what was entered after it and left, all of which reaches it and is reached from it.  A vertex on
the way knows a number `low` that lies within its reach and that no edge out of its part goes below
(`Stands`).  So when it is left with `low` its own number, no edge leads out of its part except to
components that are completed, and the part is a component (`Stands.component`); otherwise the vertex
before it on the way can be reached from it, and the two parts are joined (`Stands.join`).  Each step
keeps this up (`Invariant.step`) and lowers what there is left to do by one.
-/

namespace TaintFlow.Graph

variable {g : Graph}

namespace Search

variable {s t : Search}

/-- The vertex belongs to a component that is completed. -/
def Done (s : Search) (v : String) : Prop := ∃ c ∈ s.found, v ∈ c

/-- The vertex is done, or has a number on the stack that is not below `low`. -/
def Settled (s : Search) (stack : List String) (low : Nat) (v : String) : Prop :=
  s.Done v ∨ v ∈ stack ∧ ∀ n, s.index.get? v = some n → low ≤ n

/-- What holds of a vertex on the way, with `upper` above it on the stack, `below` under it, and some
successors ahead. -/
structure Stands (g : Graph) (s : Search) (v : String) (ahead upper below : List String) (low : Nat) :
    Prop where
  lowlink : s.lowlink.get? v = some low
  low_le : ∀ n, s.index.get? v = some n → low ≤ n
  within : ∃ x ∈ upper ++ v :: below, s.index.get? x = some low ∧ g.Reaches v x
  linked : ∀ x ∈ upper, g.Mutual v x
  edge : ∀ x ∈ ahead, g.Edge v x
  left : ∀ x ∈ upper, ∀ y, g.Edge x y → s.Settled (upper ++ v :: below) low y
  looked : ∀ y, g.Edge v y → y ∈ ahead ∨ s.Settled (upper ++ v :: below) low y

/-- The way and the stack, part by part.  The successors in the first list count as being ahead of the
last vertex on the way. -/
inductive Laid (g : Graph) (s : Search) : List String → List Visit → List String → Prop
  | nil {next : List String} : Laid g s next [] []
  | cons {next ahead upper below : List String} {v : String} {visits : List Visit} {low : Nat}
      (stands : Stands g s v (next ++ ahead) upper below low) (rest : Laid g s [v] visits below) :
      Laid g s next (⟨v, ahead⟩ :: visits) (upper ++ v :: below)

/-! ### Parts of the stack -/

theorem Settled.mono {stack : List String} {low low' : Nat} {v : String} (h : s.Settled stack low v)
    (hdone : ∀ x, s.Done x → t.Done x)
    (hindex : ∀ x ∈ stack, t.index.get? x = s.index.get? x) (hle : low' ≤ low) :
    t.Settled stack low' v := by
  rcases h with h | ⟨hv, hlow⟩
  · exact Or.inl (hdone v h)
  · refine Or.inr ⟨hv, fun n hn => Nat.le_trans hle (hlow n ?_)⟩
    rwa [hindex v hv] at hn

theorem Stands.mono {v : String} {ahead upper below : List String} {low : Nat}
    (h : Stands g s v ahead upper below low) (hdone : ∀ x, s.Done x → t.Done x)
    (hindex : ∀ x ∈ upper ++ v :: below, t.index.get? x = s.index.get? x)
    (hlowlink : t.lowlink.get? v = s.lowlink.get? v) : Stands g t v ahead upper below low where
  lowlink := hlowlink.trans h.lowlink
  low_le n hn := h.low_le n (by rwa [hindex v (by simp)] at hn)
  within := by
    obtain ⟨x, hx, hlow, hreach⟩ := h.within
    exact ⟨x, hx, (hindex x hx).trans hlow, hreach⟩
  linked := h.linked
  edge := h.edge
  left x hx y hedge := (h.left x hx y hedge).mono hdone hindex (Nat.le_refl low)
  looked y hedge := (h.looked y hedge).imp_right fun hy => hy.mono hdone hindex (Nat.le_refl low)

theorem Laid.mono {next stack : List String} {visits : List Visit} (h : Laid g s next visits stack)
    (hdone : ∀ x, s.Done x → t.Done x) (hindex : ∀ x ∈ stack, t.index.get? x = s.index.get? x)
    (hlowlink : ∀ x ∈ stack, t.lowlink.get? x = s.lowlink.get? x) : Laid g t next visits stack := by
  induction h with
  | nil => exact .nil
  | @cons next ahead upper below v visits low stands rest ih =>
    have hbelow : ∀ x ∈ below, x ∈ upper ++ v :: below := fun x hx => by simp [hx]
    exact .cons (stands.mono hdone hindex (hlowlink v (by simp)))
      (ih (fun x hx => hindex x (hbelow x hx)) fun x hx => hlowlink x (hbelow x hx))

theorem Laid.parts {next ahead stack : List String} {v : String} {visits : List Visit}
    (h : Laid g s next (⟨v, ahead⟩ :: visits) stack) : ∃ upper below low,
      stack = upper ++ v :: below ∧ Stands g s v (next ++ ahead) upper below low ∧
        Laid g s [v] visits below := by
  cases h with
  | cons stands rest => exact ⟨_, _, _, rfl, stands, rest⟩

theorem Laid.reaches {next ahead stack : List String} {v : String} {visits : List Visit}
    (h : Laid g s next (⟨v, ahead⟩ :: visits) stack) : ∀ x ∈ stack, g.Reaches x v := by
  induction visits generalizing next ahead stack v with
  | nil =>
    obtain ⟨upper, below, low, rfl, hstands, hrest⟩ := h.parts
    cases hrest
    intro x hx
    rcases List.mem_append.1 hx with hx | hx
    · exact (hstands.linked x hx).2
    · exact List.mem_singleton.1 hx ▸ .refl
  | cons visit visits ih =>
    obtain ⟨p, ahead'⟩ := visit
    obtain ⟨upper, below, low, rfl, hstands, hrest⟩ := h.parts
    obtain ⟨_, _, _, _, hparent, _⟩ := hrest.parts
    intro x hx
    rcases List.mem_append.1 hx with hx | hx
    · exact (hstands.linked x hx).2
    · rcases List.mem_cons.1 hx with rfl | hx
      · exact .refl
      · exact (ih hrest x hx).tail (hparent.edge v List.mem_cons_self)

/-- A vertex that is left joins the part of the one before it, which it reaches. -/
theorem Stands.join {v p : String} {ahead upper upper' below : List String} {low low' number : Nat}
    (h : Stands g s p (v :: ahead) upper' below low')
    (hv : Stands g s v [] upper (upper' ++ p :: below) low)
    (hreach : g.Reaches v p) (hnumber : s.index.get? v = some number)
    (hdone : ∀ x, s.Done x → t.Done x) (hindex : t.index = s.index)
    (hlowlink : t.lowlink.get? p = some (min low' low)) :
    Stands g t p ahead (upper ++ v :: upper') below (min low' low) := by
  have hstack : (upper ++ v :: upper') ++ p :: below = upper ++ v :: (upper' ++ p :: below) := by simp
  have hmono : ∀ {stack low₀ y}, s.Settled stack low₀ y → min low' low ≤ low₀ →
      (∀ x ∈ stack, x ∈ (upper ++ v :: upper') ++ p :: below) →
      t.Settled ((upper ++ v :: upper') ++ p :: below) (min low' low) y := by
    rintro stack low₀ y (hy | ⟨hy, hn⟩) hle hsub
    · exact Or.inl (hdone y hy)
    · exact Or.inr ⟨hsub y hy, fun n h => Nat.le_trans hle (hn n (hindex ▸ h))⟩
  have hall : ∀ x ∈ upper ++ v :: (upper' ++ p :: below), x ∈ (upper ++ v :: upper') ++ p :: below :=
    fun x hx => hstack ▸ hx
  have hpart : ∀ x ∈ upper' ++ p :: below, x ∈ (upper ++ v :: upper') ++ p :: below :=
    fun x hx => hall x (List.mem_append_right upper (List.mem_cons_of_mem v hx))
  have hpv : g.Mutual p v := ⟨.single (h.edge v List.mem_cons_self), hreach⟩
  have hself : t.Settled ((upper ++ v :: upper') ++ p :: below) (min low' low) v := by
    refine Or.inr ⟨by simp, fun n hn => ?_⟩
    rw [hindex, hnumber] at hn
    cases hn
    exact Nat.le_trans (Nat.min_le_right _ _) (hv.low_le number hnumber)
  exact {
    lowlink := hlowlink
    low_le := fun n hn => by
      rw [hindex] at hn
      exact Nat.le_trans (Nat.min_le_left _ _) (h.low_le n hn)
    within := by
      rw [hindex]
      rcases Nat.le_total low' low with hle | hle
      · obtain ⟨x, hx, hlow, hto⟩ := h.within
        exact ⟨x, hpart x hx, by rw [hlow, Nat.min_eq_left hle], hto⟩
      · obtain ⟨x, hx, hlow, hto⟩ := hv.within
        exact ⟨x, hall x hx, by rw [hlow, Nat.min_eq_right hle], hpv.1.trans hto⟩
    linked := fun x hx => by
      rcases List.mem_append.1 hx with hx | hx
      · exact hpv.trans (hv.linked x hx)
      · rcases List.mem_cons.1 hx with rfl | hx
        · exact hpv
        · exact h.linked x hx
    edge := fun x hx => h.edge x (List.mem_cons_of_mem v hx)
    left := fun x hx y hedge => by
      rcases List.mem_append.1 hx with hx | hx
      · exact hmono (hv.left x hx y hedge) (Nat.min_le_right _ _) hall
      · rcases List.mem_cons.1 hx with rfl | hx
        · rcases hv.looked y hedge with hy | hy
          · exact absurd hy List.not_mem_nil
          · exact hmono hy (Nat.min_le_right _ _) hall
        · exact hmono (h.left x hx y hedge) (Nat.min_le_left _ _) hpart
    looked := fun y hedge => by
      rcases h.looked y hedge with hy | hy
      · rcases List.mem_cons.1 hy with rfl | hy
        · exact Or.inr hself
        · exact Or.inl hy
      · exact Or.inr (hmono hy (Nat.min_le_left _ _) hpart) }

/-- A successor that is settled need not be looked at. -/
theorem Stands.skip {v w : String} {ahead upper below : List String} {low : Nat}
    (h : Stands g s v (w :: ahead) upper below low) (hw : s.Settled (upper ++ v :: below) low w) :
    Stands g s v ahead upper below low where
  lowlink := h.lowlink
  low_le := h.low_le
  within := h.within
  linked := h.linked
  edge x hx := h.edge x (List.mem_cons_of_mem w hx)
  left := h.left
  looked y hedge := by
    rcases h.looked y hedge with hy | hy
    · rcases List.mem_cons.1 hy with rfl | hy
      · exact Or.inr hw
      · exact Or.inl hy
    · exact Or.inr hy

theorem Laid.skip {w : String} {visits : List Visit} {stack : List String}
    (h : Laid g s [w] visits stack) (hw : s.Done w) : Laid g s [] visits stack := by
  cases h with
  | nil => exact .nil
  | cons stands rest => exact .cons (stands.skip (Or.inl hw)) rest

/-- A successor on the stack lowers what a vertex knows of. -/
theorem Stands.lower {v w : String} {ahead upper below : List String} {low number : Nat}
    (h : Stands g s v (w :: ahead) upper below low) (hw : w ∈ upper ++ v :: below)
    (hnumber : s.index.get? w = some number) (hfound : t.found = s.found)
    (hindex : t.index = s.index) (hlowlink : t.lowlink.get? v = some (min low number)) :
    Stands g t v ahead upper below (min low number) := by
  have hmono : ∀ {y}, s.Settled (upper ++ v :: below) low y →
      t.Settled (upper ++ v :: below) (min low number) y := fun hy =>
    hy.mono (fun x ⟨c, hc, hx⟩ => ⟨c, hfound ▸ hc, hx⟩) (fun x _ => by rw [hindex])
      (Nat.min_le_left low number)
  refine ⟨hlowlink, fun n hn => ?_, ?_, h.linked, ?_, fun x hx y hedge => hmono (h.left x hx y hedge), ?_⟩
  · exact Nat.le_trans (Nat.min_le_left low number) (h.low_le n (hindex ▸ hn))
  · rw [hindex]
    rcases Nat.le_total low number with hle | hle
    · obtain ⟨x, hx, hlow, hto⟩ := h.within
      exact ⟨x, hx, by rw [hlow, Nat.min_eq_left hle], hto⟩
    · exact ⟨w, hw, by rw [hnumber, Nat.min_eq_right hle], .single (h.edge w List.mem_cons_self)⟩
  · exact fun x hx => h.edge x (List.mem_cons_of_mem w hx)
  · intro y hedge
    rcases h.looked y hedge with hy | hy
    · rcases List.mem_cons.1 hy with rfl | hy
      · refine Or.inr (Or.inr ⟨hw, fun n hn => ?_⟩)
        rw [hindex, hnumber] at hn
        cases hn
        exact Nat.min_le_right low number
      · exact Or.inl hy
    · exact Or.inr (hmono hy)

/-- No edge leads out of the part of a vertex that knows of nothing before itself, except to what is
done. -/
theorem Stands.closed {v : String} {upper below : List String} {low : Nat}
    (h : Stands g s v [] upper below low)
    (hbelow : ∀ x ∈ below, ∃ n < low, s.index.get? x = some n) {x y : String}
    (hx : x ∈ upper ++ [v]) (hedge : g.Edge x y) : y ∈ upper ++ [v] ∨ s.Done y := by
  have hsettled : s.Settled (upper ++ v :: below) low y := by
    rcases List.mem_append.1 hx with hx | hx
    · exact h.left x hx y hedge
    · rw [List.mem_singleton.1 hx] at hedge
      exact (h.looked y hedge).resolve_left List.not_mem_nil
  rcases hsettled with hy | ⟨hy, hlow⟩
  · exact Or.inr hy
  · refine Or.inl ?_
    rw [List.append_cons] at hy
    refine (List.mem_append.1 hy).resolve_right fun hin => ?_
    obtain ⟨n, hlt, hn⟩ := hbelow y hin
    exact Nat.not_lt.2 (hlow n hn) hlt

/-- **The part of a vertex that knows of nothing before itself is a component.** -/
theorem Stands.component {v : String} {upper below : List String} {low : Nat}
    (h : Stands g s v [] upper below low)
    (hbelow : ∀ x ∈ below, ∃ n < low, s.index.get? x = some n)
    (hdone : ∀ x, s.Done x → ∀ y, g.Edge x y → s.Done y) (hnot : ¬ s.Done v) {x : String} :
    x ∈ upper ++ [v] ↔ g.Mutual v x := by
  have hkeeps : ∀ {a b}, g.Reaches a b → s.Done a → s.Done b := by
    intro a b hab ha
    induction hab with
    | refl => exact ha
    | tail _ hedge ih => exact hdone _ ih _ hedge
  constructor
  · intro hx
    rcases List.mem_append.1 hx with hx | hx
    · exact h.linked x hx
    · exact List.mem_singleton.1 hx ▸ .refl x
  · rintro ⟨hto, hback⟩
    have hin : x ∈ upper ++ [v] ∨ s.Done x := by
      clear hback
      induction hto with
      | refl => exact Or.inl (by simp)
      | tail _ hedge ih =>
        rcases ih with ih | ih
        · exact h.closed hbelow ih hedge
        · exact Or.inr (hdone _ ih _ hedge)
    exact hin.resolve_right fun hx => hnot (hkeeps hback hx)

/-! ### The completed components -/

/-- What holds of the components that are completed. -/
structure Completed (g : Graph) (found : List (List String)) : Prop where
  sorted : ∀ c ∈ found, c.Pairwise (fun a b => compare a b = .lt)
  classes : ∀ c ∈ found, ∃ v ∈ c, ∀ x, x ∈ c ↔ g.Mutual v x
  closed : ∀ c ∈ found, ∀ x ∈ c, ∀ y, g.Edge x y → ∃ d ∈ found, y ∈ d
  apart : found.Pairwise (fun c d => ∀ x ∈ c, x ∉ d ∧ ∀ y, g.Edge x y → y ∉ d)

theorem Completed.append {found : List (List String)} (h : Completed g found) {c : List String}
    {v : String} (hsorted : c.Pairwise (fun a b => compare a b = .lt))
    (hclass : ∀ x, x ∈ c ↔ g.Mutual v x)
    (hclosed : ∀ x ∈ c, ∀ y, g.Edge x y → y ∈ c ∨ ∃ d ∈ found, y ∈ d)
    (hfresh : ∀ x ∈ c, ∀ d ∈ found, x ∉ d) : Completed g (found ++ [c]) where
  sorted d hd := by
    rcases List.mem_append.1 hd with hd | hd
    · exact h.sorted d hd
    · exact List.mem_singleton.1 hd ▸ hsorted
  classes d hd := by
    rcases List.mem_append.1 hd with hd | hd
    · exact h.classes d hd
    · exact List.mem_singleton.1 hd ▸ ⟨v, (hclass v).2 (.refl v), hclass⟩
  closed d hd x hx y hedge := by
    rcases List.mem_append.1 hd with hd | hd
    · obtain ⟨e, he, hy⟩ := h.closed d hd x hx y hedge
      exact ⟨e, List.mem_append_left [c] he, hy⟩
    · rw [List.mem_singleton.1 hd] at hx
      rcases hclosed x hx y hedge with hy | ⟨e, he, hy⟩
      · exact ⟨c, by simp, hy⟩
      · exact ⟨e, List.mem_append_left [c] he, hy⟩
  apart := by
    refine List.pairwise_append.2 ⟨h.apart, List.pairwise_singleton _ c, fun d hd e he x hx => ?_⟩
    obtain rfl := List.mem_singleton.1 he
    refine ⟨fun hxe => hfresh x hxe d hd hx, fun y hedge hye => ?_⟩
    obtain ⟨d', hd', hy⟩ := h.closed d hd x hx y hedge
    exact hfresh y hye d' hd' hy

/-! ### The invariant -/

theorem get?_index_enter (g : Graph) (s : Search) (w x : String) :
    (s.enter g w).index.get? x = if x = w then some s.count else s.index.get? x :=
  OrderedMap.get?_set s.index w x s.count

/-- A vertex that was just entered knows of nothing but itself, and has all successors ahead. -/
theorem stands_enter (g : Graph) (s : Search) (w : String) (below : List String) :
    Stands g (s.enter g w) w (g.successors w).toList [] below s.count where
  lowlink := OrderedMap.get?_set_self _ w _
  low_le n hn := by
    rw [get?_index_enter, if_pos rfl] at hn
    exact Nat.le_of_eq (Option.some.inj hn)
  within := ⟨w, by simp, by rw [get?_index_enter, if_pos rfl], .refl⟩
  linked x hx := absurd hx List.not_mem_nil
  edge x hx := hx
  left x hx := absurd hx List.not_mem_nil
  looked y hedge := Or.inl hedge

/-- What holds between two steps.  The vertices in the list count as being ahead of the last vertex on
the way. -/
structure Invariant (g : Graph) (s : Search) (next : List String) : Prop where
  laid : Laid g s next s.visits s.stack
  falling : s.stack.Pairwise (fun a b =>
    ∀ m n, s.index.get? a = some m → s.index.get? b = some n → n < m)
  onStack : ∀ v, v ∈ s.onStack ↔ v ∈ s.stack
  indexed : ∀ v, (∃ n, s.index.get? v = some n) ↔ v ∈ s.stack ∨ s.Done v
  index_lt : ∀ v n, s.index.get? v = some n → n < s.count
  apart : ∀ v ∈ s.stack, ¬ s.Done v
  rooted : ∀ v, (∃ n, s.index.get? v = some n) → ∃ u ∈ g.keys, g.Reaches u v
  completed : Completed g s.found

theorem invariant_initial (g : Graph) : Invariant g initial [] where
  laid := .nil
  falling := .nil
  onStack v := ⟨fun h => absurd h (OrderedSet.not_mem_empty v), fun h => absurd h List.not_mem_nil⟩
  indexed v := by
    constructor
    · rintro ⟨n, hn⟩
      cases hn
    · rintro (h | ⟨c, hc, -⟩)
      · exact absurd h List.not_mem_nil
      · exact absurd hc List.not_mem_nil
  index_lt v n hn := by cases hn
  apart v hv := absurd hv List.not_mem_nil
  rooted := by
    rintro v ⟨n, hn⟩
    cases hn
  completed := ⟨fun c hc => absurd hc List.not_mem_nil, fun c hc => absurd hc List.not_mem_nil,
    fun c hc => absurd hc List.not_mem_nil, .nil⟩

namespace Invariant

variable {next : List String}

theorem nodup (h : Invariant g s next) : s.stack.Nodup := by
  refine List.Pairwise.imp_of_mem (fun {a b} ha _ hab he => ?_) h.falling
  obtain ⟨n, hn⟩ := (h.indexed a).2 (Or.inl ha)
  exact Nat.lt_irrefl n (hab n n hn (he ▸ hn))

theorem done_of_edge (h : Invariant g s next) {x y : String} (hx : s.Done x) (hedge : g.Edge x y) :
    s.Done y := by
  obtain ⟨c, hc, hx⟩ := hx
  exact h.completed.closed c hc x hx y hedge

theorem enter {w : String} (h : Invariant g s [w]) (hnew : s.index.get? w = none)
    (hroot : ∃ u ∈ g.keys, g.Reaches u w) : Invariant g (s.enter g w) [] := by
  have hindex := get?_index_enter g s w
  have hknown : ∀ x, x ∈ s.stack → x ≠ w := by
    rintro x hx rfl
    obtain ⟨n, hn⟩ := (h.indexed x).2 (Or.inl hx)
    rw [hnew] at hn
    cases hn
  have hnotdone : ¬ s.Done w := by
    intro hdone
    obtain ⟨n, hn⟩ := (h.indexed w).2 (Or.inr hdone)
    rw [hnew] at hn
    cases hn
  have hrest : Laid g (s.enter g w) [w] s.visits s.stack := h.laid.mono (fun x hx => hx)
    (fun x hx => by rw [hindex, if_neg (hknown x hx)])
    fun x hx => OrderedMap.get?_set_ne s.lowlink s.count (hknown x hx)
  have hlaid : Laid g (s.enter g w) [] (⟨w, (g.successors w).toList⟩ :: s.visits) ([] ++ w :: s.stack) :=
    .cons (stands_enter g s w s.stack) hrest
  exact {
    laid := hlaid
    falling := by
      refine List.pairwise_cons.2 ⟨fun b hb m n hm hn => ?_, ?_⟩
      · rw [hindex, if_pos rfl] at hm
        rw [hindex, if_neg (hknown b hb)] at hn
        exact Option.some.inj hm ▸ h.index_lt b n hn
      · refine h.falling.imp_of_mem fun {a b} ha hb hab m n hm hn => hab m n ?_ ?_
        · rwa [hindex, if_neg (hknown a ha)] at hm
        · rwa [hindex, if_neg (hknown b hb)] at hn
    onStack := fun v => by
      refine OrderedSet.mem_insert.trans ?_
      rw [h.onStack]
      exact List.mem_cons.symm
    indexed := fun v => by
      rw [hindex]
      by_cases hv : v = w
      · rw [if_pos hv]
        exact ⟨fun _ => Or.inl (hv ▸ List.mem_cons_self), fun _ => ⟨s.count, rfl⟩⟩
      · rw [if_neg hv, h.indexed]
        refine or_congr_left ?_
        exact ⟨fun hs => List.mem_cons_of_mem w hs, fun hs => (List.mem_cons.1 hs).resolve_left hv⟩
    index_lt := fun v n hn => by
      show n < s.count + 1
      rw [hindex] at hn
      split at hn
      · exact Option.some.inj hn ▸ Nat.lt_succ_self s.count
      · exact Nat.lt_succ_of_lt (h.index_lt v n hn)
    apart := fun v hv => by
      rcases List.mem_cons.1 hv with rfl | hv
      · exact hnotdone
      · exact h.apart v hv
    rooted := by
      rintro v ⟨n, hn⟩
      rw [hindex] at hn
      split at hn
      · next he => exact he ▸ hroot
      · exact h.rooted v ⟨n, hn⟩
    completed := h.completed }

/-- What changes neither numbers nor the stack nor the components has only to lay out the stack anew. -/
theorem congr {next' : List String} (h : Invariant g s next) (hlaid : Laid g t next' t.visits t.stack)
    (hindex : t.index = s.index) (hcount : t.count = s.count) (hstack : t.stack = s.stack)
    (honStack : t.onStack = s.onStack) (hfound : t.found = s.found) : Invariant g t next' := by
  have hdone : ∀ x, t.Done x ↔ s.Done x := fun x => by rw [Done, Done, hfound]
  exact {
    laid := hlaid
    falling := by
      rw [hstack, hindex]
      exact h.falling
    onStack := by
      rw [honStack, hstack]
      exact h.onStack
    indexed := by
      simp only [hindex, hstack, hdone]
      exact h.indexed
    index_lt := by
      rw [hindex, hcount]
      exact h.index_lt
    apart := by
      simp only [hstack, hdone]
      exact h.apart
    rooted := by
      rw [hindex]
      exact h.rooted
    completed := hfound ▸ h.completed }

theorem lower {v w : String} {ahead : List String} {visits : List Visit} {number : Nat}
    (h : Invariant g s [w]) (hvisits : s.visits = ⟨v, ahead⟩ :: visits)
    (hnumber : s.index.get? w = some number) (hw : w ∈ s.stack) :
    ∃ low, s.lower? v number = some { s with lowlink := s.lowlink.set v (min low number) } ∧
      Invariant g { s with lowlink := s.lowlink.set v (min low number) } [] := by
  obtain ⟨upper, below, low, hstack, hstands, hrest⟩ := Laid.parts (hvisits ▸ h.laid)
  rw [hstack] at hw
  have hnot : ∀ x ∈ below, x ≠ v := by
    rintro x hx rfl
    have hnodup := hstack ▸ h.nodup
    exact (List.nodup_cons.1 (List.nodup_append.1 hnodup).2.1).1 hx
  refine ⟨low, by simp [lower?, hstands.lowlink], h.congr ?_ rfl rfl rfl rfl rfl⟩
  rw [hvisits, hstack]
  refine .cons (hstands.lower hw hnumber rfl rfl (OrderedMap.get?_set_self s.lowlink v _)) ?_
  exact hrest.mono (fun x hx => hx) (fun x _ => rfl) fun x hx =>
    OrderedMap.get?_set_ne s.lowlink _ (hnot x hx)

end Invariant

theorem cut?_append {v : String} {upper below : List String} (hv : v ∉ upper) :
    cut? v (upper ++ v :: below) = some (upper ++ [v], below) := by
  induction upper with
  | nil => simp [cut?]
  | cons w rest ih =>
    obtain ⟨hne, hrest⟩ := List.ne_and_not_mem_of_not_mem_cons hv
    simp [cut?, Ne.symm hne, ih hrest]

theorem mem_foldl_erase {members : List String} {names : Names} {x : String} :
    x ∈ members.foldl .erase names ↔ x ∈ names ∧ x ∉ members := by
  induction members generalizing names with
  | nil => simp
  | cons v rest ih =>
    rw [List.foldl_cons, ih, OrderedSet.mem_erase, List.mem_cons, not_or, and_assoc]

theorem increasing_sort {members : List String} (h : members.Nodup) :
    (Insertion.sort (fun a b => compare a b = .lt) members).Pairwise (fun a b => compare a b = .lt) := by
  have hperm := Insertion.sort_perm (fun a b : String => compare a b = .lt) members
  refine ((Insertion.pairwise_sort_on id members).and (hperm.nodup_iff.2 h)).imp fun {a b} ⟨hle, hne⟩ => ?_
  cases hab : compare a b with
  | lt => rfl
  | eq => exact absurd (Std.LawfulEqOrd.eq_of_compare hab) hne
  | gt =>
    rw [id, id, hab] at hle
    cases hle

theorem lower?_of_le {v : String} {low number : Nat} (hlow : s.lowlink.get? v = some low)
    (hle : low ≤ number) : s.lower? v number = some s := by
  have hsame : s.lowlink.set v (min low number) = s.lowlink := by
    refine OrderedMap.eq_of_get?_eq fun x => ?_
    rw [OrderedMap.get?_set, Nat.min_eq_left hle]
    split
    · next hx => rw [hx, hlow]
    · rfl
  simp [lower?, hlow, hsame]

theorem complete?_eq {v : String} {upper below : List String} (hstack : s.stack = upper ++ v :: below)
    (hv : v ∉ upper) : s.complete? v = some (s.close (upper ++ [v]) below) := by
  rw [complete?, hstack, cut?_append hv]
  rfl

theorem done_close {members stack : List String} {x : String} :
    (s.close members stack).Done x ↔ s.Done x ∨ x ∈ members := by
  have hsort := (Insertion.sort_perm (fun a b : String => compare a b = .lt) members).mem_iff (a := x)
  simp only [Done, close, List.mem_append, List.mem_singleton, or_and_right, exists_or,
    exists_eq_left, hsort]

namespace Invariant

/-- What was under a vertex on the stack has a smaller number. -/
theorem below {next upper below : List String} {v : String} {number : Nat} (h : Invariant g s next)
    (hstack : s.stack = upper ++ v :: below) (hnumber : s.index.get? v = some number) :
    ∀ x ∈ below, ∃ n < number, s.index.get? x = some n := by
  intro x hx
  obtain ⟨n, hn⟩ := (h.indexed x).2 (Or.inl (by rw [hstack]; simp [hx]))
  have hfalling := hstack ▸ h.falling
  exact ⟨n, (List.pairwise_cons.1 (List.pairwise_append.1 hfalling).2.1).1 x hx number n hnumber hn, hn⟩

/-- **Completing a component**: the part of the last vertex on the way is taken off the stack. -/
theorem complete {v : String} {upper below : List String} {visits : List Visit} {low : Nat}
    (h : Invariant g s []) (hstack : s.stack = upper ++ v :: below) (hstands : Stands g s v [] upper below low)
    (hrest : Laid g s [v] visits below) (hnumber : s.index.get? v = some low) :
    ∃ t, { s with visits }.complete? v = some t ∧ Invariant g t [] ∧ t.visits = visits ∧
      t.index = s.index := by
  have hnodup : (upper ++ v :: below).Nodup := hstack ▸ h.nodup
  have hv : v ∉ upper := fun hv => (List.nodup_append.1 hnodup).2.2 v hv v List.mem_cons_self rfl
  have hmembers : (upper ++ [v]).Nodup :=
    hnodup.sublist ((List.singleton_sublist.2 List.mem_cons_self).append_left upper)
  have hbelow := h.below hstack hnumber
  have hnotdone : ∀ x ∈ upper ++ [v], ¬ s.Done x := fun x hx => h.apart x (by
    rw [hstack, List.append_cons]
    exact List.mem_append_left below hx)
  have hclass : ∀ x, x ∈ upper ++ [v] ↔ g.Mutual v x := fun x =>
    hstands.component hbelow (fun y hy z hz => h.done_of_edge hy hz) (hnotdone v (by simp))
  have hsort : ∀ x, x ∈ Insertion.sort (fun a b => compare a b = .lt) (upper ++ [v]) ↔ g.Mutual v x :=
    fun x => (Insertion.sort_perm _ _).mem_iff.trans (hclass x)
  have hdisjoint : ∀ x ∈ upper ++ [v], x ∉ below := by
    rw [List.append_cons] at hnodup
    exact fun x hx hin => (List.nodup_append.1 hnodup).2.2 x hx x hin rfl
  refine ⟨_, complete?_eq hstack hv, ?_, rfl, rfl⟩
  exact {
    laid := by
      have hlast : v ∈ upper ++ [v] := by simp
      refine Laid.skip (hrest.mono ?_ (fun x _ => rfl) fun x _ => rfl) (done_close.2 (Or.inr hlast))
      exact fun x hx => done_close.2 (Or.inl hx)
    falling := by
      have hfalling := hstack ▸ h.falling
      exact (List.pairwise_cons.1 (List.pairwise_append.1 hfalling).2.1).2
    onStack := fun x => by
      refine mem_foldl_erase.trans ?_
      rw [h.onStack, hstack, List.append_cons, List.mem_append]
      constructor
      · rintro ⟨hx | hx, hnot⟩
        · exact absurd hx hnot
        · exact hx
      · exact fun hx => ⟨Or.inr hx, fun hin => hdisjoint x hin hx⟩
    indexed := fun x => by
      rw [done_close]
      refine (h.indexed x).trans ?_
      rw [hstack, List.append_cons, List.mem_append]
      tauto
    index_lt := h.index_lt
    apart := fun x (hx : x ∈ below) hin => by
      rcases done_close.1 hin with hin | hin
      · exact h.apart x (by rw [hstack]; simp [hx]) hin
      · exact hdisjoint x hin hx
    rooted := h.rooted
    completed := by
      refine h.completed.append (increasing_sort hmembers) hsort (fun x hx y hedge => ?_) ?_
      · rw [hsort, ← hclass] at hx ⊢
        exact hstands.closed hbelow hx hedge
      · exact fun x hx c hc hxc => hnotdone x ((hclass x).2 ((hsort x).1 hx)) ⟨c, hc, hxc⟩ }

/-- What a vertex knows of besides itself lies under it on the stack. -/
theorem mem_below {next upper below : List String} {v x : String} {low number : Nat}
    (h : Invariant g s next) (hstack : s.stack = upper ++ v :: below)
    (hnumber : s.index.get? v = some number) (hx : x ∈ upper ++ v :: below)
    (hlow : s.index.get? x = some low) (hlt : low < number) : x ∈ below := by
  have hfalling := hstack ▸ h.falling
  rcases List.mem_append.1 hx with hx | hx
  · have habove := (List.pairwise_append.1 hfalling).2.2 x hx v List.mem_cons_self low number hlow hnumber
    omega
  · rcases List.mem_cons.1 hx with rfl | hx
    · rw [hnumber] at hlow
      cases hlow
      omega
    · exact hx

/-- **Leaving a vertex** completes a component, or joins the part of the vertex to the one before. -/
theorem leave {v : String} {visits : List Visit} (h : Invariant g s [])
    (hvisits : s.visits = ⟨v, []⟩ :: visits) :
    ∃ t, { s with visits }.leave? v = some t ∧ Invariant g t [] ∧
      t.visits = visits ∧ t.index = s.index := by
  obtain ⟨upper, below, low, hstack, hstands, hrest⟩ := Laid.parts (hvisits ▸ h.laid)
  obtain ⟨number, hnumber⟩ := (h.indexed v).2 (Or.inl (by rw [hstack]; simp))
  have hbelow := h.below hstack hnumber
  rcases Nat.lt_or_eq_of_le (hstands.low_le number hnumber) with hlt | rfl
  · -- what the vertex knows of belongs to the vertices before it on the way
    obtain ⟨x, hx, hlow, hto⟩ := hstands.within
    have hxbelow := h.mem_below hstack hnumber hx hlow hlt
    cases visits with
    | nil =>
      cases hrest
      exact absurd hxbelow List.not_mem_nil
    | cons visit visits =>
      obtain ⟨p, ahead⟩ := visit
      have hreach : g.Reaches v p := hto.trans (hrest.reaches x hxbelow)
      obtain ⟨upper', below', low', rfl, hparent, hrest'⟩ := hrest.parts
      have hparts : s.stack = (upper ++ v :: upper') ++ p :: below' := by rw [hstack]; simp
      have hnot : ∀ y ∈ below', y ≠ p := by
        rintro y hy rfl
        have hnodup := hparts ▸ h.nodup
        exact (List.nodup_cons.1 (List.nodup_append.1 hnodup).2.1).1 hy
      let t := { s with visits := ⟨p, ahead⟩ :: visits, lowlink := s.lowlink.set p (min low' low) }
      have hlaid : Laid g t [] (⟨p, ahead⟩ :: visits) ((upper ++ v :: upper') ++ p :: below') :=
        .cons (hparent.join hstands hreach hnumber (fun y hy => hy) rfl
            (OrderedMap.get?_set_self s.lowlink p _))
          (hrest'.mono (fun y hy => hy) (fun y _ => rfl) fun y hy =>
            OrderedMap.get?_set_ne s.lowlink _ (hnot y hy))
      refine ⟨t, ?_, h.congr (hparts ▸ hlaid) rfl rfl rfl rfl rfl, rfl, rfl⟩
      simp [leave?, handBack?, lower?, hstands.lowlink, hparent.lowlink, hnumber, Nat.ne_of_lt hlt, t]
  · have hsame : { s with visits }.handBack? low = some { s with visits } := by
      cases visits with
      | nil => rfl
      | cons visit visits =>
        obtain ⟨p, ahead⟩ := visit
        obtain ⟨upper', below', low', rfl, hparent, -⟩ := hrest.parts
        obtain ⟨n, hlt, hn⟩ := hbelow p (by simp)
        exact lower?_of_le hparent.lowlink (Nat.le_trans (hparent.low_le n hn) (Nat.le_of_lt hlt))
    have hleave : { s with visits }.leave? v = { s with visits }.complete? v := by
      simp [leave?, hsame, hstands.lowlink, hnumber]
    rw [hleave]
    exact h.complete hstack hstands hrest hnumber

end Invariant

/-! ### Steps and runs -/

/-- One step for each vertex that is not left, and for each edge that is not looked at. -/
def todo (g : Graph) (s : Search) : Nat :=
  (g.vertices.toList.map (fun v => if s.index.contains v then 0 else (g.successors v).size + 1)).sum +
    (s.visits.map (fun visit => visit.ahead.length + 1)).sum

theorem todo_enter {w : String} (hw : w ∈ g.vertices) (hnew : s.index.get? w = none) :
    (s.enter g w).todo g = s.todo g := by
  have hindex : ∀ v, (s.enter g w).index.contains v = if v = w then true else s.index.contains v := by
    intro v
    rw [OrderedMap.contains, get?_index_enter]
    split <;> rfl
  have hout : s.index.contains w = false := by rw [OrderedMap.contains, hnew]; rfl
  -- apart from the vertex itself there is as much to do as before
  have hrest : (g.vertices.toList.erase w).map (fun v =>
        if (s.enter g w).index.contains v then 0 else (g.successors v).size + 1) =
      (g.vertices.toList.erase w).map (fun v =>
        if s.index.contains v then 0 else (g.successors v).size + 1) := by
    refine List.map_congr_left fun v hv => ?_
    rw [hindex, if_neg (g.vertices.nodup_toList.mem_erase_iff.1 hv).1]
  rw [todo, todo, ← List.sum_map_erase _ hw, ← List.sum_map_erase _ hw, hrest, hindex, hout]
  simp only [enter, OrderedSet.size, if_pos, List.map_cons, List.sum_cons, Bool.false_eq_true, if_false]
  omega

theorem todo_le_effort (hvisits : s.visits = []) : s.todo g ≤ g.effort := by
  have heffort : g.effort = (g.vertices.toList.map (fun v => (g.successors v).size + 1)).sum := by
    rw [effort, List.sum_eq_foldr, List.foldr_map]
  rw [todo, hvisits, heffort, List.map_nil, List.sum_nil, Nat.add_zero]
  refine List.sum_le_sum fun v _ => ?_
  split
  · exact Nat.zero_le _
  · exact Nat.le_refl _

/-- What was entered stays entered, with its number. -/
def Keeps (s t : Search) : Prop := ∀ v n, s.index.get? v = some n → t.index.get? v = some n

theorem keeps_of_eq (h : t.index = s.index) : Keeps s t := fun v n hn => by rw [h, hn]

theorem keeps_enter {w : String} (hnew : s.index.get? w = none) : Keeps s (s.enter g w) := by
  intro v n hn
  have hne : v ≠ w := by
    rintro rfl
    rw [hnew] at hn
    cases hn
  exact (OrderedMap.get?_set_ne s.index s.count hne).trans hn

namespace Invariant

theorem look {v w : String} {ahead : List String} {visits : List Visit} (h : Invariant g s [w])
    (hvisits : s.visits = ⟨v, ahead⟩ :: visits) : ∃ t, s.look? g v w = some t ∧ Invariant g t [] ∧
      t.todo g = s.todo g ∧ Keeps s t := by
  obtain ⟨upper, below, low, hstack, hstands, hrest⟩ := Laid.parts (hvisits ▸ h.laid)
  have hedge : g.Edge v w := hstands.edge w List.mem_cons_self
  unfold look?
  cases hnumber : s.index.get? w with
  | none =>
    obtain ⟨u, hu, hreach⟩ := h.rooted v ((h.indexed v).2 (Or.inl (by rw [hstack]; simp)))
    exact ⟨_, rfl, h.enter hnumber ⟨u, hu, hreach.tail hedge⟩,
      todo_enter (mem_vertices_of_edge hedge) hnumber, keeps_enter hnumber⟩
  | some number =>
    dsimp only
    split
    · next hon =>
      obtain ⟨low, hlower, hinvariant⟩ := h.lower hvisits hnumber ((h.onStack w).1 hon)
      exact ⟨_, hlower, hinvariant, rfl, keeps_of_eq rfl⟩
    · next hon =>
      have hdone : s.Done w := ((h.indexed w).1 ⟨number, hnumber⟩).resolve_left fun hin =>
        hon ((h.onStack w).2 hin)
      exact ⟨s, rfl, h.congr (h.laid.skip hdone) rfl rfl rfl rfl rfl, rfl, keeps_of_eq rfl⟩

/-- **A step** keeps the invariant, and there is one step less to do. -/
theorem step (h : Invariant g s []) (hvisits : s.visits ≠ []) :
    ∃ t, s.step? g = some t ∧ Invariant g t [] ∧ t.todo g + 1 = s.todo g ∧ Keeps s t := by
  unfold step?
  split
  · next hnil => exact absurd hnil hvisits
  · next v visits heq =>
    obtain ⟨t, ht, hinvariant, hleft, hindex⟩ := h.leave heq
    refine ⟨t, ht, hinvariant, ?_, keeps_of_eq hindex⟩
    simp [todo, hleft, hindex, heq]
    omega
  · next v w ahead visits heq =>
    obtain ⟨upper, below, low, hstack, hstands, hrest⟩ := Laid.parts (heq ▸ h.laid)
    have hlaid : Laid g { s with visits := ⟨v, ahead⟩ :: visits } [w] (⟨v, ahead⟩ :: visits) s.stack := by
      have hcons : Laid g s [w] (⟨v, ahead⟩ :: visits) (upper ++ v :: below) := .cons hstands hrest
      rw [hstack]
      exact hcons.mono (fun x hx => hx) (fun x _ => rfl) fun x _ => rfl
    have hnext : Invariant g { s with visits := ⟨v, ahead⟩ :: visits } [w] :=
      h.congr hlaid rfl rfl rfl rfl rfl
    obtain ⟨t, ht, hinvariant, htodo, hkeeps⟩ := hnext.look rfl
    refine ⟨t, ht, hinvariant, ?_, hkeeps⟩
    rw [htodo]
    simp [todo, heq]
    omega

/-- **A run** that has enough steps leaves every vertex that was entered. -/
theorem run (n : Nat) (h : Invariant g s []) (hn : s.todo g ≤ n) :
    ∃ t, s.run? g n = some t ∧ Invariant g t [] ∧ t.visits = [] ∧ Keeps s t := by
  induction n generalizing s with
  | zero =>
    refine ⟨s, rfl, h, ?_, keeps_of_eq rfl⟩
    by_contra hvisits
    obtain ⟨t, -, -, htodo, -⟩ := h.step hvisits
    omega
  | succ n ih =>
    rw [run?]
    split
    · next hempty => exact ⟨s, rfl, h, List.isEmpty_iff.1 hempty, keeps_of_eq rfl⟩
    · next hvisits =>
      obtain ⟨t, ht, hinvariant, htodo, hkeeps⟩ := h.step fun hnil => hvisits (by rw [hnil]; rfl)
      obtain ⟨u, hu, hend, hnil, hkeeps'⟩ := ih hinvariant (by omega)
      refine ⟨u, ?_, hend, hnil, fun v n hn => hkeeps' v n (hkeeps v n hn)⟩
      rw [ht]
      exact hu

theorem stack_eq_nil {next : List String} (h : Invariant g s next) (hvisits : s.visits = []) :
    s.stack = [] := by
  have hlaid := hvisits ▸ h.laid
  generalize s.stack = stack at hlaid
  cases hlaid
  rfl

theorem searchFrom {v : String} (h : Invariant g s []) (hvisits : s.visits = []) (hv : v ∈ g.keys) :
    ∃ t, g.searchFrom? s v = some t ∧ Invariant g t [] ∧ t.visits = [] ∧ Keeps s t ∧
      ∃ n, t.index.get? v = some n := by
  unfold searchFrom?
  split
  · next hin => exact ⟨s, rfl, h, hvisits, keeps_of_eq rfl, Option.isSome_iff_exists.1 hin⟩
  · next hout =>
    have hnew : s.index.get? v = none := by simpa [OrderedMap.contains] using hout
    have hnext : Invariant g s [v] := by
      refine h.congr ?_ rfl rfl rfl rfl rfl
      rw [hvisits, h.stack_eq_nil hvisits]
      exact .nil
    have henter := hnext.enter hnew ⟨v, hv, .refl⟩
    have htodo : (s.enter g v).todo g ≤ g.effort := by
      rw [todo_enter (mem_vertices_iff.2 (Or.inl hv)) hnew]
      exact todo_le_effort hvisits
    obtain ⟨t, ht, hinvariant, hnil, hkeeps⟩ := henter.run g.effort htodo
    refine ⟨t, ht, hinvariant, hnil, fun x n hn => hkeeps x n (keeps_enter hnew x n hn), s.count, ?_⟩
    exact hkeeps v s.count (OrderedMap.get?_set_self s.index v s.count)

theorem searchAll {ks : List String} (h : Invariant g s []) (hvisits : s.visits = [])
    (hks : ∀ v ∈ ks, v ∈ g.keys) : ∃ t, ks.foldlM g.searchFrom? s = some t ∧ Invariant g t [] ∧
      t.visits = [] ∧ Keeps s t ∧ ∀ v ∈ ks, ∃ n, t.index.get? v = some n := by
  induction ks generalizing s with
  | nil => exact ⟨s, rfl, h, hvisits, keeps_of_eq rfl, fun v hv => absurd hv List.not_mem_nil⟩
  | cons v rest ih =>
    obtain ⟨t, ht, hnext, hnil, hkeeps, n, hn⟩ := h.searchFrom hvisits (hks v List.mem_cons_self)
    obtain ⟨u, hu, hend, hnil', hkeeps', hall⟩ :=
      ih hnext hnil fun w hw => hks w (List.mem_cons_of_mem v hw)
    refine ⟨u, ?_, hend, hnil', fun w m hm => hkeeps' w m (hkeeps w m hm), fun w hw => ?_⟩
    · rw [List.foldlM_cons, ht]
      exact hu
    · rcases List.mem_cons.1 hw with rfl | hw
      · exact ⟨n, hkeeps' w n hn⟩
      · exact hall w hw

end Invariant

end Search

end TaintFlow.Graph
