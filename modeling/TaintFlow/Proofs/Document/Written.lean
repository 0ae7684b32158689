import TaintFlow.Document.Reader
import TaintFlow.Document.Text
import TaintFlow.Proofs.Number
import TaintFlow.Proofs.Text

/-!
# Texts and numbers can be told from their canonical forms

A written text is a sequence of sixteen-bit units, each in its own notation, between quotes.  The first unit
is told from the front of what is written (`firstUnit?`), so the units are told, and with them where the text
ends (`eq_of_escapeUnits_append`).  The units of a text tell its code points, but for pairs whose units are
code points of their own: these are written as the character that the pair is.  So texts are written alike
exactly when they are the same with their pairs joined (`eq_of_writeText_append`, `writeText_joined`).  A whole
number ends at the first character that is no digit (`eq_of_whole_append`).
-/

namespace TaintFlow

open Document.Reader (unit? hexValue?)

/-! ### Units -/

namespace Text

theorem hexValue?_hexDigit {n : Nat} (h : n < 16) : hexValue? (hexDigit n) = some n := by
  have hall : ∀ n < 16, hexValue? (hexDigit n) = some n := by decide
  exact hall n h

theorem unit?_hexDigits {n : Nat} (h : n < 0x10000) (rest : List Char) :
    unit? (hexDigits 4 n ++ rest) = some (n, rest) := by
  have hvalue : ∀ k, hexValue? (hexDigit (k % 16)) = some (k % 16) := fun k =>
    hexValue?_hexDigit (Nat.mod_lt k (by decide))
  simp only [hexDigits, List.nil_append, List.cons_append, unit?, hvalue, Option.bind_eq_bind,
    Option.bind_some, Option.some.injEq, Prod.mk.injEq, and_true]
  omega

end Text

namespace Document

def escapedUnit? : List Char → Option (Nat × List Char)
  | 'u' :: rest => unit? rest
  | '"' :: rest => some (34, rest)
  | '\\' :: rest => some (92, rest)
  | 'n' :: rest => some (10, rest)
  | 'r' :: rest => some (13, rest)
  | 't' :: rest => some (9, rest)
  | 'b' :: rest => some (8, rest)
  | 'f' :: rest => some (12, rest)
  | _ => none

/-- The first unit of a written text, unless the text ends there. -/
def firstUnit? : List Char → Option (Nat × List Char)
  | [] => none
  | c :: rest =>
    if c = '"' then none else if c = '\\' then escapedUnit? rest else some (c.toNat, rest)

theorem firstUnit?_escapeUnit {unit : Nat} (h : unit < 0x10000) (rest : List Char) :
    firstUnit? (escapeUnit unit ++ rest) = some (unit, rest) := by
  unfold escapeUnit
  split
  · next h34 => rw [h34]; rfl
  split
  · next h92 => rw [h92]; rfl
  split
  · next h10 => rw [h10]; rfl
  split
  · next h13 => rw [h13]; rfl
  split
  · next h9 => rw [h9]; rfl
  split
  · next h8 => rw [h8]; rfl
  split
  · next h12 => rw [h12]; rfl
  split
  · next h34 h92 _ _ _ _ _ hplain =>
    have hvalue : (Char.ofNat unit).toNat = unit := by
      have hall : ∀ n < 127, (Char.ofNat n).toNat = n := by decide
      exact hall unit hplain.2
    have hquote : Char.ofNat unit ≠ '"' := fun he => h34 (hvalue ▸ congrArg Char.toNat he)
    have hslash : Char.ofNat unit ≠ '\\' := fun he => h92 (hvalue ▸ congrArg Char.toNat he)
    rw [List.singleton_append, firstUnit?, if_neg hquote, if_neg hslash, hvalue]
  · exact Text.unit?_hexDigits h rest

/-- Written units tell the units and where they end. -/
theorem eq_of_escapeUnits_append {us vs : List Nat} {x y : List Char} (hus : ∀ u ∈ us, u < 0x10000)
    (hvs : ∀ v ∈ vs, v < 0x10000)
    (h : us.flatMap escapeUnit ++ '"' :: x = vs.flatMap escapeUnit ++ '"' :: y) : us = vs ∧ x = y := by
  have hfirst : ∀ {w : Nat} {ws : List Nat} {z : List Char}, w < 0x10000 →
      firstUnit? ((w :: ws).flatMap escapeUnit ++ '"' :: z) =
        some (w, ws.flatMap escapeUnit ++ '"' :: z) := by
    intro w ws z hw
    rw [List.flatMap_cons, List.append_assoc, firstUnit?_escapeUnit hw]
  have hend : ∀ z, firstUnit? ('"' :: z) = none := fun _ => rfl
  induction us generalizing vs with
  | nil =>
    cases vs with
    | nil => exact ⟨rfl, (List.cons.inj h).2⟩
    | cons v vs =>
      have hnone := hend x
      rw [show '"' :: x = (v :: vs).flatMap escapeUnit ++ '"' :: y from h,
        hfirst (hvs v List.mem_cons_self)] at hnone
      cases hnone
  | cons u us ih =>
    have hu : firstUnit? ((u :: us).flatMap escapeUnit ++ '"' :: x) =
        some (u, us.flatMap escapeUnit ++ '"' :: x) := hfirst (hus u List.mem_cons_self)
    cases vs with
    | nil =>
      rw [show (u :: us).flatMap escapeUnit ++ '"' :: x = '"' :: y from h, hend] at hu
      cases hu
    | cons v vs =>
      rw [h, hfirst (hvs v List.mem_cons_self), Option.some.injEq, Prod.mk.injEq] at hu
      obtain ⟨rfl, hrest⟩ := hu
      obtain ⟨rfl, hxy⟩ := ih (fun w hw => hus w (List.mem_cons_of_mem _ hw))
        (fun w hw => hvs w (List.mem_cons_of_mem _ hw)) hrest.symm
      exact ⟨rfl, hxy⟩

/-! ### Code points -/

/-- A code point is one unit, or the two of its pair. -/
theorem units_cases {point : Nat} (h : point < 0x110000) :
    units point = [point] ∧ point < 0x10000 ∨ ∃ high low, units point = [high, low] ∧
      Text.isHigh high = true ∧ Text.isLow low = true ∧ Text.pair high low = point := by
  unfold units
  by_cases hplane : point < 0x10000
  · exact Or.inl ⟨if_pos hplane, hplane⟩
  · refine Or.inr ⟨_, _, if_neg hplane, Text.isHigh_iff.2 ?_, Text.isLow_iff.2 ?_, ?_⟩
    · omega
    · omega
    · unfold Text.pair
      omega

theorem units_of_lt {point : Nat} (h : point < 0x10000) : units point = [point] := if_pos h

theorem units_pair {high low : Nat} (hhigh : Text.isHigh high = true) (hlow : Text.isLow low = true) :
    units (Text.pair high low) = [high, low] := by
  rw [Text.isHigh_iff] at hhigh
  rw [Text.isLow_iff] at hlow
  have hplane : ¬ Text.pair high low < 0x10000 := by
    unfold Text.pair
    omega
  have hfirst : 0xd800 + (Text.pair high low - 0x10000) / 0x400 = high := by
    unfold Text.pair
    omega
  have hsecond : 0xdc00 + (Text.pair high low - 0x10000) % 0x400 = low := by
    unfold Text.pair
    omega
  rw [units, if_neg hplane, hfirst, hsecond]

theorem lt_of_mem_units {point unit : Nat} (h : point < 0x110000) (hunit : unit ∈ units point) :
    unit < 0x10000 := by
  rcases units_cases h with ⟨hunits, hlt⟩ | ⟨high, low, hunits, hhigh, hlow, -⟩
  all_goals
    rw [hunits] at hunit
    simp only [List.mem_cons, List.not_mem_nil, or_false] at hunit
  · omega
  · rw [Text.isHigh_iff] at hhigh
    rw [Text.isLow_iff] at hlow
    omega

theorem flatMap_units_joinPoints (ps : List Nat) :
    (Text.joinPoints ps).flatMap units = ps.flatMap units := by
  induction ps using Text.joinPoints.induct with
  | case1 => rfl
  | case2 p => rfl
  | case3 p q rest hpair ih =>
    have hboth := Bool.and_eq_true_iff.1 hpair
    have hp := (Text.isHigh_iff.1 hboth.1).2
    have hq := (Text.isLow_iff.1 hboth.2).2
    rw [Text.joinPoints, if_pos hpair, List.flatMap_cons, units_pair hboth.1 hboth.2, ih, List.flatMap_cons,
      List.flatMap_cons, units_of_lt (by omega : p < 0x10000), units_of_lt (by omega : q < 0x10000)]
    rfl
  | case4 p q rest hpair ih => rw [Text.joinPoints, if_neg hpair, List.flatMap_cons, ih, ← List.flatMap_cons]

/-- The second unit of a pair does not come first, unless it is a code point of its own. -/
theorem head?_flatMap_units {ps : List Nat} (h : ∀ p ∈ ps, p < 0x110000) {unit : Nat}
    (hunit : unit ∈ (ps.flatMap units).head?) (hlow : Text.isLow unit = true) : unit ∈ ps.head? := by
  cases ps with
  | nil => exact hunit
  | cons p ps =>
    rw [List.flatMap_cons] at hunit
    rcases units_cases (h p List.mem_cons_self) with ⟨hunits, -⟩ | ⟨high, low, hunits, hhigh, -⟩ <;>
      rw [hunits, List.cons_append, List.head?_cons, Option.mem_some_iff] at hunit
    · rw [hunit]
      rfl
    · rw [hunit, Text.isHigh_iff] at hhigh
      rw [Text.isLow_iff] at hlow
      omega

/-- **Units tell the code points with their pairs joined.** -/
theorem joinPoints_flatMap_units {ps : List Nat} (h : ∀ p ∈ ps, p < 0x110000) :
    Text.joinPoints (ps.flatMap units) = Text.joinPoints ps := by
  induction ps using Text.joinPoints.induct with
  | case1 => rfl
  | case2 p =>
    rw [List.flatMap_singleton]
    rcases units_cases (h p List.mem_cons_self) with ⟨hunits, -⟩ | ⟨high, low, hunits, hhigh, hlow, hpoint⟩
    · rw [hunits]
    · rw [hunits, Text.joinPoints_pair [] hhigh hlow, hpoint]
      rfl
  | case3 p q rest hpair ih =>
    have hboth := Bool.and_eq_true_iff.1 hpair
    have hp := (Text.isHigh_iff.1 hboth.1).2
    have hq := (Text.isLow_iff.1 hboth.2).2
    have hrest := (List.forall_mem_cons.1 (List.forall_mem_cons.1 h).2).2
    rw [List.flatMap_cons, List.flatMap_cons, units_of_lt (by omega : p < 0x10000),
      units_of_lt (by omega : q < 0x10000), List.singleton_append, List.singleton_append,
      Text.joinPoints_pair _ hboth.1 hboth.2, ih hrest, Text.joinPoints_pair _ hboth.1 hboth.2]
  | case4 p q rest hpair ih =>
    obtain ⟨hp, hrest⟩ := List.forall_mem_cons.1 h
    rw [List.flatMap_cons, Text.joinPoints, if_neg hpair]
    rcases units_cases hp with ⟨hunits, -⟩ | ⟨high, low, hunits, hhigh, hlow, hpoint⟩
    · rw [hunits, List.singleton_append, Text.joinPoints_cons_of_not, ih hrest]
      intro unit hunit
      rw [← Bool.not_eq_true, Bool.and_eq_true]
      rintro ⟨hhigh, hlow⟩
      obtain rfl := Option.some.inj (head?_flatMap_units hrest hunit hlow)
      exact hpair (Bool.and_eq_true_iff.2 ⟨hhigh, hlow⟩)
    · rw [hunits, List.cons_append, List.singleton_append, Text.joinPoints_pair _ hhigh hlow, hpoint, ih hrest]

/-! ### Texts -/

theorem toList_writeText_append (s : String) (rest : List Char) : (writeText s).toList ++ rest =
    '"' :: (((Text.points s).flatMap units).flatMap escapeUnit ++ '"' :: rest) := by
  rw [writeText, String.toList_ofList, List.cons_append, List.cons_append, List.append_assoc,
    List.singleton_append]

/-- **A text is told from what is written but for the pairs in it, and with it where it ends.** -/
theorem eq_of_writeText_append {s t : String} {x y : List Char}
    (h : (writeText s).toList ++ x = (writeText t).toList ++ y) : Text.joined s = Text.joined t ∧ x = y := by
  have hpoints : ∀ r : String, ∀ p ∈ Text.points r, p < 0x110000 := fun _ _ => Text.lt_of_mem_points
  have hlt : ∀ r : String, ∀ u ∈ (Text.points r).flatMap units, u < 0x10000 := by
    intro r u hu
    obtain ⟨p, hp, hu⟩ := List.mem_flatMap.1 hu
    exact lt_of_mem_units (hpoints r p hp) hu
  rw [toList_writeText_append, toList_writeText_append, List.cons.injEq] at h
  obtain ⟨hunits, hxy⟩ := eq_of_escapeUnits_append (hlt s) (hlt t) h.2
  refine ⟨?_, hxy⟩
  rw [Text.joined, Text.joined, ← joinPoints_flatMap_units (hpoints s), hunits,
    joinPoints_flatMap_units (hpoints t)]

/-- **A text is written as it is with its pairs joined.** -/
theorem writeText_joined (s : String) : writeText (Text.joined s) = writeText s := by
  rw [writeText, writeText, Text.points_joined, flatMap_units_joinPoints]

/-! ### Numbers -/

/-- A number can end where the text begins: no digit comes first. -/
def Ends (cs : List Char) : Prop := ∀ c ∈ cs.head?, c.isDigit = false

theorem ends_nil : Ends [] := nofun

theorem eq_of_digits_append {ds es x y : List Char} (hds : ∀ c ∈ ds, c.isDigit = true)
    (hes : ∀ c ∈ es, c.isDigit = true) (hx : Ends x) (hy : Ends y) (h : ds ++ x = es ++ y) :
    ds = es ∧ x = y := by
  have hend : ∀ {z : List Char}, Ends z → z.takeWhile Char.isDigit = [] := by
    intro z hz
    cases z with
    | nil => rfl
    | cons c cs => rw [List.takeWhile_cons, hz c rfl, if_neg Bool.false_ne_true]
  have hsame : ds = es := by
    have htaken := congrArg (List.takeWhile Char.isDigit) h
    rwa [List.takeWhile_append_of_pos hds, List.takeWhile_append_of_pos hes, hend hx, hend hy,
      List.append_nil, List.append_nil] at htaken
  subst hsame
  exact ⟨rfl, List.append_cancel_left h⟩

theorem toDigits_injective {m n : Nat} (h : Nat.toDigits 10 m = Nat.toDigits 10 n) : m = n := by
  have hvalue := congrArg (fun ds => Nat.ofDigitChars 10 ds 0) h
  simpa only [Nat.ofDigitChars_ten_toDigits] using hvalue

theorem toList_whole (n : Int) : (toString n).toList =
    if n < 0 then '-' :: Nat.toDigits 10 n.natAbs else Nat.toDigits 10 n.natAbs := by
  cases n with
  | ofNat m =>
    rw [if_neg (by simp)]
    simp [Int.toString_eq_repr, Int.repr]
  | negSucc m =>
    rw [if_pos (Int.negSucc_lt_zero m)]
    simp [Int.toString_eq_repr, Int.repr]

/-- **A whole number is told from what is written, and with it where it ends.** -/
theorem eq_of_whole_append {m n : Int} {x y : List Char} (hx : Ends x) (hy : Ends y)
    (h : (toString m).toList ++ x = (toString n).toList ++ y) : m = n ∧ x = y := by
  have hdigits : ∀ k : Int, ∀ c ∈ Nat.toDigits 10 k.natAbs, c.isDigit = true := fun _ _ =>
    isDigit_of_mem_toDigits
  have hsign : ∀ (k : Int) (z w : List Char), '-' :: z ≠ Nat.toDigits 10 k.natAbs ++ w := by
    intro k z w he
    cases hd : Nat.toDigits 10 k.natAbs with
    | nil => exact absurd hd (List.ne_nil_of_length_pos Nat.length_toDigits_pos)
    | cons c cs =>
      rw [hd, List.cons_append, List.cons.injEq] at he
      have hc := hdigits k c (hd ▸ List.mem_cons_self)
      rw [← he.1] at hc
      cases hc
  rw [toList_whole, toList_whole] at h
  split at h <;> split at h
  · rw [List.cons_append, List.cons_append, List.cons.injEq] at h
    obtain ⟨hsame, hxy⟩ := eq_of_digits_append (hdigits m) (hdigits n) hx hy h.2
    exact ⟨by have := toDigits_injective hsame; omega, hxy⟩
  · exact absurd h (hsign n _ _)
  · exact absurd h.symm (hsign m _ _)
  · obtain ⟨hsame, hxy⟩ := eq_of_digits_append (hdigits m) (hdigits n) hx hy h
    exact ⟨by have := toDigits_injective hsame; omega, hxy⟩

end Document

end TaintFlow
