import Mathlib.Algebra.Order.Ring.Int
import TaintFlow.Finding.Basic
import TaintFlow.Proofs.Collection

/-!
# What findings compete by

The findings of a group compete by confidence, by the length of their paths and by the paths.  The exact value of
a confidence is a multiple of the smallest real number, or it lies beyond all of them, so confidences that are
numbers are compared by two whole numbers (`Amount.compare?_eq`) and findings by a standing that is ordered
(`groupOrder?_eq`).

Ranked findings stand in the order of their standings, and those of a list in another order have the same ones
(`map_standing_ranked_perm`).
-/

namespace TaintFlow

namespace Binary

/-- On which side a number lies beyond all finite ones. -/
def reach : Binary → Int
  | .infinite negative => if negative then -1 else 1
  | .nan | .finite _ _ _ => 0

/-- A finite number as a multiple of the smallest real one. -/
def units : Binary → Int
  | .finite negative m q => multiple leastExponent negative m q
  | .nan | .infinite _ => 0

theorem multiple_eq_mul {low q : Int} (hlow : leastExponent ≤ low) (hq : low ≤ q) (negative : Bool) (m : Nat) :
    multiple leastExponent negative m q = multiple low negative m q * Nat.pow 2 (low - leastExponent).toNat := by
  have hexponent : (q - leastExponent).toNat = (q - low).toNat + (low - leastExponent).toNat := by omega
  have hpow : Nat.pow 2 (q - leastExponent).toNat =
      Nat.pow 2 (q - low).toNat * Nat.pow 2 (low - leastExponent).toNat := by
    rw [hexponent]
    exact Nat.pow_add 2 _ _
  unfold multiple
  rw [hpow]
  cases negative
  · simp only [Bool.false_eq_true, if_false, Nat.cast_mul, mul_assoc]
  · simp only [if_true, Nat.cast_mul, mul_assoc, neg_mul]

theorem compare_mul_pos {x y k : Int} (hk : 0 < k) : compare (x * k) (y * k) = compare x y := by
  rcases Int.lt_trichotomy x y with h | rfl | h
  · rw [Int.compare_eq_lt.2 h, Int.compare_eq_lt.2 (Int.mul_lt_mul_of_pos_right h hk)]
  · rw [Int.compare_eq_eq.2 rfl, Int.compare_eq_eq.2 rfl]
  · rw [Int.compare_eq_gt.2 h, Int.compare_eq_gt.2 (Int.mul_lt_mul_of_pos_right h hk)]

/-- Numbers are compared by where they lie beyond the finite ones, then by their multiples. -/
theorem compare?_eq {a b : Binary} (ha : a ≠ .nan) (hb : b ≠ .nan)
    (hleast : ∀ negative m q, a = .finite negative m q ∨ b = .finite negative m q → leastExponent ≤ q) :
    a.compare? b = some ((compare a.reach b.reach).then (compare a.units b.units)) := by
  cases a with
  | nan => exact absurd rfl ha
  | infinite m =>
    cases b with
    | nan => exact absurd rfl hb
    | infinite n => cases m <;> cases n <;> rfl
    | finite t n q => cases m <;> rfl
  | finite s m p =>
    cases b with
    | nan => exact absurd rfl hb
    | infinite n => cases n <;> rfl
    | finite t n q =>
      have hp := hleast s m p (Or.inl rfl)
      have hq := hleast t n q (Or.inr rfl)
      have hlow : leastExponent ≤ min p q := by omega
      unfold compare? reach units
      dsimp only
      rw [multiple_eq_mul hlow (by omega) s m, multiple_eq_mul hlow (by omega) t n, compare_mul_pos]
      · rfl
      · exact Int.natCast_pos.2 (Nat.pow_pos (by decide))

end Binary

namespace Amount

theorem leastExponent_le_of_exact {a : Amount} {negative : Bool} {m : Nat} {q : Int}
    (h : a.exact = .finite negative m q) : Binary.leastExponent ≤ q := by
  cases a with
  | truth b =>
    cases h
    decide
  | whole n =>
    cases h
    decide
  | real x =>
    unfold exact Binary.ofFloat at h
    dsimp only at h
    split at h
    · split at h <;> cases h
    · split at h
      · cases h
        exact Int.le_refl _
      · next hfield =>
        cases h
        rw [beq_iff_eq] at hfield
        omega

/-- **Amounts that are numbers are compared by two whole numbers.** -/
theorem compare?_eq {a b : Amount} (ha : a.exact ≠ .nan) (hb : b.exact ≠ .nan) :
    a.compare? b = some ((compare a.exact.reach b.exact.reach).then (compare a.exact.units b.exact.units)) :=
  Binary.compare?_eq ha hb fun _ _ _ h => h.elim leastExponent_le_of_exact leastExponent_le_of_exact

end Amount

namespace Finding

/-- What a finding competes by, the best first. -/
structure Standing where
  reach : Int
  units : Int
  length : Nat
  path : List Atom

namespace Standing

def order : Standing → Standing → Ordering :=
  compareLex (compareOn reach) (compareLex (compareOn units) (compareLex (compareOn length) (compareOn path)))

instance : Ord Standing := ⟨order⟩

instance : Std.TransOrd Standing :=
  inferInstanceAs (Std.TransCmp (compareLex (compareOn reach) (compareLex (compareOn units)
    (compareLex (compareOn length) (compareOn path)))))

instance : Std.LawfulEqOrd Standing where
  eq_of_compare {a b} h := by
    have h : order a b = .eq := h
    simp only [order, compareLex, compareOn, Ordering.then_eq_eq] at h
    obtain ⟨hreach, hunits, hlength, hpath⟩ := h
    cases a
    cases b
    obtain rfl := Std.LawfulEqOrd.eq_of_compare hreach
    obtain rfl := Std.LawfulEqOrd.eq_of_compare hunits
    obtain rfl := Std.LawfulEqOrd.eq_of_compare hlength
    obtain rfl := Std.LawfulEqOrd.eq_of_compare hpath
    rfl
  compare_self := Std.ReflOrd.compare_self

end Standing

def standing (f : Finding) : Standing :=
  ⟨-f.confidence.exact.reach, -f.confidence.exact.units, f.path.length, f.path⟩

theorem compare_neg_neg (x y : Int) : compare (-x) (-y) = compare y x := by
  rcases Int.lt_trichotomy x y with h | rfl | h
  · rw [Int.compare_eq_gt.2 h, Int.compare_eq_gt.2 (by omega)]
  · rw [Int.compare_eq_eq.2 rfl, Int.compare_eq_eq.2 rfl]
  · rw [Int.compare_eq_lt.2 h, Int.compare_eq_lt.2 (by omega)]

/-- **Findings whose confidences are numbers compete by their standings.** -/
theorem groupOrder?_eq {a b : Finding} (ha : a.confidence.exact ≠ .nan) (hb : b.confidence.exact ≠ .nan) :
    a.groupOrder? b = some (compare a.standing b.standing) := by
  have horder : compare a.standing b.standing =
      (compare (-a.confidence.exact.reach) (-b.confidence.exact.reach)).then
        ((compare (-a.confidence.exact.units) (-b.confidence.exact.units)).then
          ((compare a.path.length b.path.length).then (compare a.path b.path))) := rfl
  rw [horder, compare_neg_neg, compare_neg_neg, groupOrder?, orderByConfidence, Amount.compare?_eq hb ha,
    Option.map_some, Ordering.then_assoc]

def ranked (fs : List Finding) : List Finding := Insertion.sort (fun a b => a.groupOrder? b = some .lt) fs

variable {fs fs' : List Finding}

theorem ranked_perm (fs : List Finding) : (ranked fs).Perm fs := Insertion.sort_perm _ fs

/-- **Findings are ranked by their standings.** -/
theorem pairwise_standing_ranked (h : ∀ f ∈ fs, f.confidence.exact ≠ .nan) :
    (ranked fs).Pairwise (fun a b => (compare a.standing b.standing).isLE = true) := by
  have hagree : ∀ a ∈ fs, ∀ b ∈ fs, decide (a.groupOrder? b = some .lt) =
      decide (compare a.standing b.standing = .lt) := by
    intro a ha b hb
    refine decide_eq_decide.2 ?_
    rw [groupOrder?_eq (h a ha) (h b hb), Option.some_inj]
  rw [ranked, Insertion.sort_congr hagree]
  exact Insertion.pairwise_sort_on standing fs

/-- **The standings of ranked findings do not depend on the order in which the findings came.** -/
theorem map_standing_ranked_perm (h : ∀ f ∈ fs, f.confidence.exact ≠ .nan) (hperm : fs'.Perm fs) :
    (ranked fs').map standing = (ranked fs).map standing := by
  have hstandings := ((ranked_perm fs').trans (hperm.trans (ranked_perm fs).symm)).map standing
  have hsorted : ∀ fs : List Finding, (∀ f ∈ fs, f.confidence.exact ≠ .nan) →
      ((ranked fs).map standing).Pairwise (fun a b => (compare a b).isLE = true) := fun fs h =>
    List.pairwise_map.2 (pairwise_standing_ranked h)
  refine hstandings.eq_of_pairwise (fun a b _ _ hab hba => ?_)
    (hsorted fs' fun f hf => h f (hperm.subset hf)) (hsorted fs h)
  exact Std.LawfulEqCmp.eq_of_compare (Std.OrientedCmp.isLE_antisymm hab hba)

end Finding

end TaintFlow
