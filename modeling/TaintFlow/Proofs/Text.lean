import Mathlib.Data.List.Chain
import Mathlib.Data.List.Pairwise
import TaintFlow.Text.Points

/-!
# The code points of texts

Each text holds one list of code points and each list of code points is held by one text
(`ofPoints_points`, `points_ofPoints`).  A reader of sixteen-bit units makes one code point of the two units of
a pair, also where they are code points of their own (`joinPoints`); a text is joined if it has no such pair
(`Text.isJoined`).  What has no mark is held character by character (`points_of_plain`).
-/

namespace TaintFlow.Text

/-! ### Texts and their code points -/

theorem toNat_mark : mark.toNat = 0xd7ff := rfl

theorem eq_mark_iff {c : Char} : c = mark ↔ c.toNat = 0xd7ff := by
  rw [← toNat_mark]
  exact ⟨congrArg Char.toNat, fun h => by rw [← Char.ofNat_toNat c, h, Char.ofNat_toNat]⟩

theorem isUnit_iff {n : Nat} : isUnit n = true ↔ 0xd800 ≤ n ∧ n < 0xe000 := by
  simp [isUnit]

theorem isPlace_iff {n : Nat} : isPlace n = true ↔ 0xe000 ≤ n ∧ n < 0xe800 := by
  simp [isPlace]

/-- No unit is the number of a character. -/
theorem toNat_cases (c : Char) : c.toNat < 0xd800 ∨ 0xe000 ≤ c.toNat ∧ c.toNat < 0x110000 := by
  have hvalid : c.toNat < 0xd800 ∨ 0xdfff < c.toNat ∧ c.toNat < 0x110000 := c.valid
  omega

theorem toNat_ofNat {n : Nat} (h : n < 0x110000) (hunit : ¬ isUnit n = true) : (Char.ofNat n).toNat = n := by
  rw [isUnit_iff] at hunit
  have hvalid : n.isValidChar := by
    unfold Nat.isValidChar
    omega
  rw [Char.ofNat, dif_pos hvalid]
  rfl

theorem pointsFrom_replicate (marks n : Nat) (cs : List Char) :
    pointsFrom marks (List.replicate n mark ++ cs) = pointsFrom (marks + n) cs := by
  induction n generalizing marks with
  | zero => rfl
  | succ n ih =>
    rw [List.replicate_succ, List.cons_append, pointsFrom, if_pos rfl, ih, Nat.add_right_comm, Nat.add_assoc]

theorem charsFrom_replicate (marks n : Nat) (ps : List Nat) :
    charsFrom marks (List.replicate n mark.toNat ++ ps) = charsFrom (marks + n) ps := by
  induction n generalizing marks with
  | zero => rfl
  | succ n ih =>
    rw [List.replicate_succ, List.cons_append, charsFrom, if_pos rfl, ih, Nat.add_right_comm, Nat.add_assoc]

/-- A list of code points after some marks is told from the characters that hold it. -/
theorem pointsFrom_charsFrom {ps : List Nat} (h : ∀ p ∈ ps, p < 0x110000) (marks : Nat) :
    pointsFrom 0 (charsFrom marks ps) = List.replicate marks mark.toNat ++ ps := by
  induction ps generalizing marks with
  | nil =>
    have hmarks := pointsFrom_replicate 0 marks []
    rw [List.append_nil, Nat.zero_add] at hmarks
    rw [charsFrom, hmarks, pointsFrom, List.append_nil]
  | cons p ps ih =>
    obtain ⟨hp, hps⟩ := List.forall_mem_cons.1 h
    rw [charsFrom]
    by_cases hmark : p = mark.toNat
    · rw [if_pos hmark, ih hps, List.replicate_succ', List.append_assoc, hmark]
      rfl
    rw [if_neg hmark]
    by_cases hunit : isUnit p = true
    · have hrange := isUnit_iff.1 hunit
      have hplace : ¬ isUnit (p + 0x800) = true := by
        rw [isUnit_iff]
        omega
      have hvalue := toNat_ofNat (by omega : p + 0x800 < 0x110000) hplace
      have hother : Char.ofNat (p + 0x800) ≠ mark := by
        rw [Ne, eq_mark_iff, hvalue]
        omega
      rw [if_pos hunit, pointsFrom_replicate, pointsFrom, if_neg hother, hvalue,
        if_pos (isPlace_iff.2 (by omega)), if_pos (by omega), ih hps]
      have hhalf : (0 + (2 * marks + 1)) / 2 = marks := by omega
      rw [hhalf, Nat.add_sub_cancel]
      rfl
    rw [if_neg hunit]
    have hvalue := toNat_ofNat hp hunit
    have hother : Char.ofNat p ≠ mark := by
      rw [Ne, eq_mark_iff, hvalue, ← toNat_mark]
      exact hmark
    by_cases hplace : isPlace p = true
    · have hhalf : (0 + 2 * marks) / 2 = marks := by omega
      rw [if_pos hplace, pointsFrom_replicate, pointsFrom, if_neg hother, hvalue, if_pos hplace,
        if_neg (by omega), hhalf, ih hps]
      rfl
    · rw [if_neg hplace, pointsFrom_replicate, pointsFrom, if_neg hother, hvalue, if_neg hplace, Nat.zero_add,
        ih hps]
      rfl

/-- Characters after some marks are told from the code points that they hold. -/
theorem charsFrom_pointsFrom (cs : List Char) (marks : Nat) :
    charsFrom 0 (pointsFrom marks cs) = List.replicate marks mark ++ cs := by
  induction cs generalizing marks with
  | nil =>
    have hmarks := charsFrom_replicate 0 marks []
    rw [List.append_nil, Nat.zero_add] at hmarks
    rw [pointsFrom, hmarks, charsFrom, List.append_nil]
  | cons c cs ih =>
    rw [pointsFrom]
    by_cases hmark : c = mark
    · rw [if_pos hmark, ih, List.replicate_succ', List.append_assoc, hmark]
      rfl
    rw [if_neg hmark]
    have hother : c.toNat ≠ mark.toNat := fun he => hmark (eq_mark_iff.2 he)
    have hrange := toNat_cases c
    by_cases hplace : isPlace c.toNat = true
    · have hcode := isPlace_iff.1 hplace
      rw [if_pos hplace]
      by_cases hodd : marks % 2 = 1
      · have hback : Char.ofNat (c.toNat - 0x800 + 0x800) = c := by
          rw [Nat.sub_add_cancel (by omega), Char.ofNat_toNat]
        have hcount : 2 * (0 + marks / 2) + 1 = marks := by omega
        rw [if_pos hodd, charsFrom_replicate, charsFrom, if_neg (by rw [toNat_mark]; omega),
          if_pos (isUnit_iff.2 (by omega)), hback, hcount, ih]
        rfl
      · have hcount : 2 * (0 + marks / 2) = marks := by omega
        rw [if_neg hodd, charsFrom_replicate, charsFrom, if_neg hother,
          if_neg (by rw [isUnit_iff]; omega), if_pos hplace, hcount, Char.ofNat_toNat, ih]
        rfl
    · rw [if_neg hplace, charsFrom_replicate, charsFrom, if_neg hother, if_neg (by rw [isUnit_iff]; omega),
        if_neg hplace, Nat.zero_add, Char.ofNat_toNat, ih]
      rfl

/-- **A text is told from its code points.** -/
theorem ofPoints_points (s : String) : ofPoints (points s) = s := by
  rw [ofPoints, points, charsFrom_pointsFrom, List.replicate_zero, List.nil_append, String.ofList_toList]

/-- **Each list of code points is that of a text.** -/
theorem points_ofPoints {ps : List Nat} (h : ∀ p ∈ ps, p < 0x110000) : points (ofPoints ps) = ps := by
  rw [points, ofPoints, String.toList_ofList, pointsFrom_charsFrom h, List.replicate_zero, List.nil_append]

theorem points_injective : Function.Injective points :=
  Function.LeftInverse.injective ofPoints_points

theorem lt_of_mem_points {s : String} {p : Nat} (h : p ∈ points s) : p < 0x110000 := by
  have hall : ∀ (cs : List Char) (marks : Nat), ∀ p ∈ pointsFrom marks cs, p < 0x110000 := by
    have hmarks : ∀ n, ∀ p ∈ List.replicate n mark.toNat, p < 0x110000 := fun n p hp => by
      rw [List.eq_of_mem_replicate hp, toNat_mark]
      decide
    intro cs
    induction cs with
    | nil => exact fun marks => hmarks marks
    | cons c cs ih =>
      intro marks
      have hc := toNat_cases c
      rw [pointsFrom]
      split
      · exact ih _
      · split
        · refine List.forall_mem_append.2 ⟨hmarks _, List.forall_mem_cons.2 ⟨?_, ih 0⟩⟩
          split <;> omega
        · exact List.forall_mem_append.2 ⟨hmarks _, List.forall_mem_cons.2 ⟨by omega, ih 0⟩⟩
  exact hall s.toList 0 p h

/-! ### Joined texts -/

/-- What a reader of units makes of code points: one of each pair. -/
def joinPoints : List Nat → List Nat
  | [] => []
  | [p] => [p]
  | p :: q :: rest =>
    if isHigh p && isLow q then pair p q :: joinPoints rest else p :: joinPoints (q :: rest)

/-- The text with each pair of units made one character. -/
def joined (s : String) : String := ofPoints (joinPoints (points s))

/-- No unit is followed by the other one of a pair. -/
def Unpaired (ps : List Nat) : Prop := ps.IsChain fun p q => (isHigh p && isLow q) = false

/-- **No pair of units stands apart in the text.** -/
def isJoined (s : String) : Bool := decide ((points s).IsChain fun p q => (isHigh p && isLow q) = false)

theorem isJoined_iff {s : String} : isJoined s = true ↔ Unpaired (points s) := decide_eq_true_iff

theorem isHigh_iff {n : Nat} : isHigh n = true ↔ 0xd800 ≤ n ∧ n < 0xdc00 := by
  simp [isHigh]

theorem isLow_iff {n : Nat} : isLow n = true ↔ 0xdc00 ≤ n ∧ n < 0xe000 := by
  simp [isLow]

theorem joinPoints_pair {high low : Nat} (ps : List Nat) (hhigh : isHigh high = true)
    (hlow : isLow low = true) : joinPoints (high :: low :: ps) = pair high low :: joinPoints ps := by
  rw [joinPoints, if_pos (Bool.and_eq_true_iff.2 ⟨hhigh, hlow⟩)]

theorem joinPoints_cons_of_not {p : Nat} {ps : List Nat} (h : ∀ q ∈ ps.head?, (isHigh p && isLow q) = false) :
    joinPoints (p :: ps) = p :: joinPoints ps := by
  cases ps with
  | nil => rfl
  | cons q rest => rw [joinPoints, h q rfl, if_neg Bool.false_ne_true]

theorem lt_of_mem_joinPoints {ps : List Nat} (h : ∀ p ∈ ps, p < 0x110000) :
    ∀ p ∈ joinPoints ps, p < 0x110000 := by
  induction ps using joinPoints.induct with
  | case1 => exact h
  | case2 p => exact h
  | case3 p q rest hpair ih =>
    rw [joinPoints, if_pos hpair, List.forall_mem_cons]
    rw [Bool.and_eq_true, isHigh_iff, isLow_iff] at hpair
    obtain ⟨-, hrest⟩ := List.forall_mem_cons.1 h
    refine ⟨?_, ih (List.forall_mem_cons.1 hrest).2⟩
    unfold pair
    omega
  | case4 p q rest hpair ih =>
    rw [joinPoints, if_neg hpair, List.forall_mem_cons]
    obtain ⟨hp, hrest⟩ := List.forall_mem_cons.1 h
    exact ⟨hp, ih hrest⟩

theorem joinPoints_eq_self {ps : List Nat} (h : Unpaired ps) : joinPoints ps = ps := by
  induction ps using joinPoints.induct with
  | case1 => rfl
  | case2 p => rfl
  | case3 p q rest hpair ih =>
    rw [(List.isChain_cons_cons.1 h).1] at hpair
    cases hpair
  | case4 p q rest hpair ih => rw [joinPoints, if_neg hpair, ih (List.isChain_cons_cons.1 h).2]

theorem points_joined (s : String) : points (joined s) = joinPoints (points s) :=
  points_ofPoints (lt_of_mem_joinPoints fun _ hp => lt_of_mem_points hp)

theorem joined_eq_self {s : String} (h : isJoined s = true) : joined s = s := by
  rw [joined, joinPoints_eq_self (isJoined_iff.1 h), ofPoints_points]

/-- Code points without the units of pairs are joined. -/
theorem unpaired_of_forall {ps : List Nat} (h : ∀ p ∈ ps, isUnit p = false) : Unpaired ps := by
  refine (List.pairwise_of_forall_mem_list fun p hp q _ => ?_).isChain
  have hplain := h p hp
  rw [← Bool.not_eq_true, isUnit_iff] at hplain
  rw [← Bool.not_eq_true, Bool.and_eq_true, isHigh_iff]
  omega

/-! ### Texts without marks -/

/-- The text has no mark, so that each of its characters is a code point. -/
def Plain (s : String) : Prop := mark ∉ s.toList

instance (s : String) : Decidable (Plain s) := inferInstanceAs (Decidable (mark ∉ s.toList))

theorem points_of_plain {s : String} (h : Plain s) : points s = s.toList.map Char.toNat := by
  have hall : ∀ cs : List Char, mark ∉ cs → pointsFrom 0 cs = cs.map Char.toNat := by
    intro cs hcs
    induction cs with
    | nil => rfl
    | cons c cs ih =>
      rw [List.mem_cons, not_or] at hcs
      rw [pointsFrom, if_neg (Ne.symm hcs.1), ih hcs.2]
      split <;> rfl
  exact hall s.toList h

theorem isJoined_of_plain {s : String} (h : Plain s) : isJoined s = true := by
  rw [isJoined_iff, points_of_plain h]
  refine unpaired_of_forall fun p hp => ?_
  obtain ⟨c, -, rfl⟩ := List.mem_map.1 hp
  have hrange := toNat_cases c
  rw [← Bool.not_eq_true, isUnit_iff]
  omega

end TaintFlow.Text
