import Mathlib.Algebra.Group.Nat.Defs
import Mathlib.Data.List.Induction
import Mathlib.Data.List.TakeWhile
import TaintFlow.Document.Coerce

/-!
# Whole numbers written and read

A whole number is read as it is written, unless it has too many digits (`wholeOfText_toString_nat`,
`wholeOfText_toString`), and no number that is read has too many (`natAbs_lt_of_wholeOfText`).  What denotes a
whole number denotes a real one as well (`exists_realOfText?_of_wholeOfText`).
-/

namespace TaintFlow

theorem toNat_of_isDigit {c : Char} (h : c.isDigit = true) : 48 ≤ c.toNat ∧ c.toNat ≤ 57 :=
  Char.isDigit_iff_toNat.1 h

theorem digitValue?_of_isDigit {c : Char} (h : c.isDigit = true) :
    Text.digitValue? c = some (c.toNat - 48) ∧ Char.ofNat (48 + (c.toNat - 48)) = c := by
  obtain ⟨hlow, hhigh⟩ := toNat_of_isDigit h
  refine ⟨?_, ?_⟩
  · unfold Text.digitValue?
    rw [if_pos (by omega), if_pos]
    exact ⟨Char.le_def.2 hlow, Char.le_def.2 hhigh⟩
  · rw [show 48 + (c.toNat - 48) = c.toNat by omega, Char.ofNat_toNat]

theorem toLower_of_isDigit {c : Char} (h : c.isDigit = true) : c.toLower = c := by
  obtain ⟨_, hhigh⟩ := toNat_of_isDigit h
  refine dif_neg fun hupper => ?_
  have hlow : 65 ≤ c.toNat := hupper.1
  omega

section Characters

variable {cs : List Char}

theorem isWhite_of_isDigit {c : Char} (h : c.isDigit = true) : Text.isWhite c = false := by
  obtain ⟨hlow, hhigh⟩ := toNat_of_isDigit h
  unfold Text.isWhite
  simp only [Bool.or_eq_false_iff, Bool.and_eq_false_iff, decide_eq_false_iff_not, beq_eq_false_iff_ne]
  omega

theorem strip_of_not_isWhite (h : ∀ c ∈ cs, Text.isWhite c = false) : Text.strip Text.isWhite cs = cs := by
  have hdrop : ∀ l : List Char, (∀ c ∈ l, c ∈ cs) → l.dropWhile Text.isWhite = l := by
    intro l hl
    cases l with
    | nil => rfl
    | cons c rest => rw [List.dropWhile_cons, h c (hl c List.mem_cons_self), if_neg Bool.false_ne_true]
  rw [Text.strip, hdrop cs fun c hc => hc, Text.dropRight,
    hdrop cs.reverse fun c hc => List.mem_reverse.1 hc, List.reverse_reverse]

theorem plainDigits_eq_self (h : ∀ c ∈ cs, c.isDigit = true ∨ Text.digitValue? c = none) :
    plainDigits cs = cs := by
  unfold plainDigits
  refine (List.map_congr_left fun c hc => ?_).trans (List.map_id cs)
  rcases h c hc with hdigit | hnone
  · obtain ⟨hvalue, hback⟩ := digitValue?_of_isDigit hdigit
    rw [hvalue]
    exact hback
  · rw [hnone]
    rfl

theorem mem_of_joinDigits? {afterDigit : Bool} {digits : List Char}
    (h : joinDigits? afterDigit cs = some digits) : ∀ c ∈ digits, c ∈ cs ∧ c ≠ '_' := by
  induction cs generalizing afterDigit digits with
  | nil =>
    obtain rfl := Option.some.inj h
    nofun
  | cons x rest ih =>
    rw [joinDigits?.eq_def] at h
    split at h
    · next he => cases he
    · next he =>
      obtain ⟨rfl, rfl⟩ := List.cons.inj he
      split at h
      · split at h
        · exact fun c hc => ⟨List.mem_cons_of_mem _ (ih h c hc).1, (ih h c hc).2⟩
        · cases h
      · cases h
    · next hne he =>
      obtain ⟨rfl, rfl⟩ := List.cons.inj he
      obtain ⟨joined, hjoined, rfl⟩ := Option.map_eq_some_iff.1 h
      refine List.forall_mem_cons.2 ⟨⟨List.mem_cons_self, hne⟩, fun c hc => ?_⟩
      exact ⟨List.mem_cons_of_mem _ (ih hjoined c hc).1, (ih hjoined c hc).2⟩

end Characters

section Digits

variable {digits : List Char}

theorem joinDigits?_of_isDigit (h : ∀ c ∈ digits, c.isDigit = true) (afterDigit : Bool) :
    joinDigits? afterDigit digits = some digits := by
  induction digits generalizing afterDigit with
  | nil => rfl
  | cons c rest ih =>
    have hne : c ≠ '_' := by
      rintro rfl
      exact absurd (h '_' List.mem_cons_self) (by decide)
    rw [joinDigits?.eq_def]
    split
    · next he => cases he
    · next he => exact absurd (List.cons.inj he).1 hne
    · next he =>
      cases he
      rw [ih fun d hd => h d (List.mem_cons_of_mem c hd)]
      rfl

theorem valueOfDigits_lt (h : ∀ c ∈ digits, c.isDigit = true) :
    valueOfDigits digits < 10 ^ digits.length := by
  induction digits using List.reverseRecOn with
  | nil => decide
  | append_singleton digits c ih =>
    obtain ⟨-, hhigh⟩ := toNat_of_isDigit (h c (by simp))
    have hrest := ih fun d hd => h d (List.mem_append_left [c] hd)
    have hvalue : valueOfDigits (digits ++ [c]) = 10 * valueOfDigits digits + (c.toNat - 48) := by
      rw [valueOfDigits, List.foldl_append]
      rfl
    rw [hvalue, List.length_append, List.length_singleton, Nat.pow_succ]
    omega

theorem takeSign_of_isDigit (h : ∀ c ∈ digits, c.isDigit = true) :
    takeSign digits = (false, digits) := by
  unfold takeSign
  split
  · exact absurd (h '-' List.mem_cons_self) (by decide)
  · exact absurd (h '+' List.mem_cons_self) (by decide)
  · rfl

/-- **A sign and digits are read as they stand**, unless they are too many. -/
theorem wholeOfText_of_isDigit {s : String} {negative : Bool}
    (hs : s.toList = if negative then '-' :: digits else digits) (h : ∀ c ∈ digits, c.isDigit = true)
    (hpos : 0 < digits.length) (hlength : digits.length ≤ digitLimit) :
    wholeOfText s = .ok (signedWhole negative (valueOfDigits digits)) := by
  have hchars : ∀ c ∈ s.toList, Text.isWhite c = false ∧ (c.isDigit = true ∨ Text.digitValue? c = none) := by
    intro c hc
    have hc : c = '-' ∨ c ∈ digits := by
      rw [hs] at hc
      split at hc
      · exact List.mem_cons.1 hc
      · exact Or.inr hc
    rcases hc with rfl | hc
    · exact ⟨by decide, Or.inr (by decide)⟩
    · exact ⟨isWhite_of_isDigit (h c hc), Or.inl (h c hc)⟩
  have hsign : takeSign s.toList = (negative, digits) := by
    rw [hs]
    cases negative with
    | true => rfl
    | false => exact takeSign_of_isDigit h
  have hfront : digits.takeWhile (fun c => c.isDigit || c = '_') = digits :=
    List.takeWhile_eq_self_iff.2 fun c hc => by rw [h c hc, Bool.true_or]
  unfold wholeOfText
  rw [strip_of_not_isWhite fun c hc => (hchars c hc).1, plainDigits_eq_self fun c hc => (hchars c hc).2,
    hsign]
  dsimp only
  rw [hfront, joinDigits?_of_isDigit h]
  split
  · next he => cases he
  · next he =>
    rw [Option.some.inj he] at hpos
    cases hpos
  · next joined _ he =>
    obtain rfl := Option.some.inj he
    rw [if_neg (Nat.not_lt.2 hlength), if_neg (Nat.lt_irrefl _)]

end Digits

theorem isDigit_of_mem_toDigits {n : Nat} {c : Char} (h : c ∈ Nat.toDigits 10 n) : c.isDigit = true :=
  Nat.isDigit_of_mem_toDigits (by decide) (by decide) h

theorem length_toDigits_le {n : Nat} (h : n < 10 ^ digitLimit) : (Nat.toDigits 10 n).length ≤ digitLimit :=
  (Nat.length_toDigits_le_iff (by decide) (by decide)).2 h

/-- A natural number is read as it is written, unless it has too many digits. -/
theorem wholeOfText_toString_nat {n : Nat} (h : n < 10 ^ digitLimit) : wholeOfText (toString n) = .ok n := by
  have hs : (toString n).toList = if false = true then '-' :: Nat.toDigits 10 n else Nat.toDigits 10 n := by
    simp
  rw [wholeOfText_of_isDigit hs (fun c hc => isDigit_of_mem_toDigits hc) Nat.length_toDigits_pos
    (length_toDigits_le h)]
  exact congrArg (fun m : Nat => Except.ok (m : Int)) Nat.ofDigitChars_ten_toDigits

/-- **A whole number is read as it is written**, unless it has too many digits. -/
theorem wholeOfText_toString {n : Int} (h : n.natAbs < 10 ^ digitLimit) :
    wholeOfText (toString n) = .ok n := by
  cases n with
  | ofNat m => exact wholeOfText_toString_nat h
  | negSucc m =>
    have hs : (toString (Int.negSucc m)).toList =
        if true = true then '-' :: Nat.toDigits 10 (m + 1) else Nat.toDigits 10 (m + 1) := by
      rw [Int.toString_eq_repr, Int.repr]
      simp
    rw [wholeOfText_of_isDigit hs (fun c hc => isDigit_of_mem_toDigits hc) Nat.length_toDigits_pos
      (length_toDigits_le h)]
    exact congrArg (fun m : Nat => Except.ok (-(m : Int))) Nat.ofDigitChars_ten_toDigits

/-- **A text that denotes a whole number is a sign and digits**, not too many of them, between which underscores
may stand. -/
theorem exists_digits_of_wholeOfText {s : String} {n : Int} (h : wholeOfText s = .ok n) :
    ∃ digits, joinDigits? false (takeSign (plainDigits (Text.strip Text.isWhite s.toList))).2 = some digits ∧
      digits ≠ [] ∧ digits.length ≤ digitLimit ∧ (∀ c ∈ digits, c.isDigit = true) ∧
        n.natAbs = valueOfDigits digits := by
  unfold wholeOfText at h
  dsimp only at h
  generalize takeSign (plainDigits (Text.strip Text.isWhite s.toList)) = signed at h
  obtain ⟨negative, body⟩ := signed
  split at h
  · cases h
  · cases h
  · next digits hne hjoined =>
    split at h
    · cases h
    · next hlength =>
      split at h
      · cases h
      · next hall =>
        have hfront : body.takeWhile (fun c => c.isDigit || c = '_') = body :=
          (List.takeWhile_prefix _).eq_of_length_le (Nat.not_lt.1 hall)
        refine ⟨digits, hfront ▸ hjoined, hne, Nat.not_lt.1 hlength, fun c hc => ?_, ?_⟩
        · obtain ⟨hfront, hne⟩ := mem_of_joinDigits? hjoined c hc
          simpa [hne] using List.mem_takeWhile_imp hfront
        · obtain rfl := Except.ok.inj h
          cases negative <;> simp [signedWhole]

/-- **A number that is read has not too many digits.** -/
theorem natAbs_lt_of_wholeOfText {s : String} {n : Int} (h : wholeOfText s = .ok n) :
    n.natAbs < 10 ^ digitLimit := by
  obtain ⟨digits, -, -, hlength, hdigits, hn⟩ := exists_digits_of_wholeOfText h
  rw [hn]
  exact Nat.lt_of_lt_of_le (valueOfDigits_lt hdigits) (Nat.pow_le_pow_right (by decide) hlength)

theorem exists_decimalOf?_of_isDigit {digits : List Char} (hne : digits ≠ []) (h : ∀ c ∈ digits, c.isDigit = true)
    (negative : Bool) : ∃ x, decimalOf? negative digits = some x := by
  have htake : digits.takeWhile Char.isDigit = digits := List.takeWhile_eq_self_iff.2 h
  have hdrop : digits.dropWhile Char.isDigit = [] := List.dropWhile_eq_nil_iff.2 h
  unfold decimalOf?
  dsimp only
  rw [htake, hdrop]
  dsimp only
  rw [List.isEmpty_eq_false_iff.2 hne, Bool.false_and, if_neg Bool.false_ne_true]
  exact ⟨_, rfl⟩

/-- **What denotes a whole number denotes a real one.** -/
theorem exists_realOfText?_of_wholeOfText {s : String} {n : Int} (h : wholeOfText s = .ok n) :
    ∃ x, realOfText? s = some x := by
  obtain ⟨digits, hjoined, hne, -, hdigits, -⟩ := exists_digits_of_wholeOfText h
  unfold realOfText?
  generalize plainDigits (Text.strip Text.isWhite s.toList) = cs at hjoined
  -- the sign is no digit and no underscore, so it stays in front of what is joined
  have hsigned : ∃ joined, joinDigits? false cs = some joined ∧ (takeSign joined).2 = digits := by
    unfold takeSign at hjoined
    split at hjoined
    · exact ⟨'-' :: digits, by rw [joinDigits?.eq_def]; exact congrArg (Option.map _) hjoined, rfl⟩
    · exact ⟨'+' :: digits, by rw [joinDigits?.eq_def]; exact congrArg (Option.map _) hjoined, rfl⟩
    · exact ⟨digits, hjoined, congrArg Prod.snd (takeSign_of_isDigit hdigits)⟩
  obtain ⟨joined, hcs, hbody⟩ := hsigned
  obtain ⟨c, rest, rfl⟩ := List.exists_cons_of_ne_nil hne
  have hname : ∀ name : List Char, (name.head?.all fun d => !d.isDigit) = true →
      ((c :: rest).map Char.toLower == name) = false := by
    intro name hname
    refine beq_false_of_ne ?_
    rintro rfl
    rw [List.map_cons, toLower_of_isDigit (hdigits c List.mem_cons_self), List.head?_cons, Option.all_some,
      hdigits c List.mem_cons_self] at hname
    cases hname
  rw [hcs, Option.bind_eq_bind, Option.bind_some]
  dsimp only
  rw [hbody, hname _ (by decide), hname _ (by decide), hname _ (by decide)]
  exact exists_decimalOf?_of_isDigit hne hdigits _

end TaintFlow
