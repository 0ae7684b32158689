import TaintFlow.Number.Binary

/-!
# The shortest decimal that reads back

A number is written with the fewest digits whose decimal rounds to it again, and among those with
the digits nearest to it. A decimal rounds to the number when it lies in the interval halfway to
the two neighbours, whose ends belong to it when the significand is even.
-/

namespace TaintFlow.Shortest

/-- The number of decimal digits of a positive whole number. -/
def digitCount (n : Nat) : Nat := (Nat.toDigits 10 n).length

/-- The exponent `k` with `10^(k-1) ≤ num/den < 10^k`, for a positive quotient. -/
def decimalExponent (num den : Nat) : Int :=
  if den ≤ num then digitCount (num / den)
  else
    let inverse := digitCount (den / num)
    if num * Nat.pow 10 (inverse - 1) == den then 2 - (inverse : Int) else 1 - (inverse : Int)

/-- A power of ten with any exponent, as a numerator and a denominator. -/
def powerOfTen (g : Int) : Nat × Nat :=
  if 0 ≤ g then (Nat.pow 10 g.toNat, 1) else (1, Nat.pow 10 (-g).toNat)

/-- The interval around `m · 2^q` in quarters of `2^q`: lower end, value, upper end. -/
def quarters (m : Nat) (q : Int) : Nat × Nat × Nat :=
  let below := if m == Binary.leadingBit && q > Binary.leastExponent then 1 else 2
  (4 * m - below, 4 * m, 4 * m + 2)

/-- A multiple of `10^g` that rounds to `m · 2^q`: the nearer of the two around it. -/
def onGrid? (m : Nat) (q g : Int) : Option Nat :=
  let (low, value, high) := quarters m q
  let (num, den) := Binary.powerOfTwo (q - 2)
  let (up, down) := powerOfTen g
  let scale (x : Nat) : Nat := x * num * down
  let point (c : Nat) : Nat := c * up * den
  let inside (c : Nat) : Bool :=
    if m % 2 == 0 then scale low ≤ point c && point c ≤ scale high
    else scale low < point c && point c < scale high
  let floor := scale value / (up * den)
  let below := scale value - point floor
  let above := point (floor + 1) - scale value
  match inside floor, inside (floor + 1) with
  | false, false => none
  | true, false => some floor
  | false, true => some (floor + 1)
  | true, true =>
    if below < above then some floor
    else if above < below then some (floor + 1)
    else if floor % 2 == 0 then some floor else some (floor + 1)

/-- Tries grids of `n`, `n + 1`, … digits, `left` of them. -/
def search (m : Nat) (q k : Int) : Nat → Nat → Nat × Int
  | 0, n => (0, k - n)
  | left + 1, n =>
    match onGrid? m q (k - n) with
    | some c => (c, k - n)
    | none => search m q k left (n + 1)

/-- The shortest digits `c` and their exponent `g`, so that `c · 10^g` reads back as `m · 2^q`. -/
def decimal (m : Nat) (q : Int) : Nat × Int :=
  let (num, den) := Binary.powerOfTwo q
  search m q (decimalExponent (m * num) den) 17 1

/-- Drops the zeros at the end of a list of digits and counts them. -/
def dropZeros (digits : List Char) : List Char × Nat :=
  let kept := (digits.reverse.dropWhile (· = '0')).reverse
  (kept, digits.length - kept.length)

end TaintFlow.Shortest
