/-!
# The exact value of a binary floating-point number

A finite number is a sign, a whole significand and a power of two. Everything that is printed or
rounded is computed from these three, in whole-number arithmetic.
-/

namespace TaintFlow

/-- A floating-point number taken apart: `finite negative m q` stands for `±m · 2^q`. -/
inductive Binary where
  | nan
  | infinite (negative : Bool)
  | finite (negative : Bool) (significand : Nat) (exponent : Int)
deriving DecidableEq, Repr

namespace Binary

/-- The least exponent, that of the subnormal numbers. -/
def leastExponent : Int := -1074

/-- The significand of a power of two, below which the numbers lie twice as dense. -/
def leadingBit : Nat := Nat.pow 2 52

def ofFloat (x : Float) : Binary :=
  let bits : Nat := x.toBits.toNat
  let negative := bits / Nat.pow 2 63 == 1
  let field : Nat := bits / Nat.pow 2 52 % 2048
  let fraction : Nat := bits % Nat.pow 2 52
  if field == 2047 then
    if fraction == 0 then .infinite negative else .nan
  else if field == 0 then .finite negative fraction leastExponent
  else .finite negative (leadingBit + fraction) (leastExponent + (field : Int) - 1)

/-- A whole number taken apart. -/
def ofWhole (n : Int) : Binary := .finite (n < 0) n.natAbs 0

/-- A number as a multiple of `2^low`, for an exponent that is at least `low`. -/
def multiple (low : Int) (negative : Bool) (m : Nat) (q : Int) : Int :=
  let size : Int := ((m * Nat.pow 2 (q - low).toNat : Nat) : Int)
  if negative then -size else size

/-- The order of two numbers by their exact values. What is not a number has no place in it. -/
def compare? (a b : Binary) : Option Ordering :=
  match a, b with
  | .nan, _ | _, .nan => none
  | .infinite m, .infinite n => some (compare n m)
  | .infinite m, .finite _ _ _ => some (if m then .lt else .gt)
  | .finite _ _ _, .infinite n => some (if n then .gt else .lt)
  | .finite s m p, .finite t n q =>
    let low := min p q
    some (compare (multiple low s m p) (multiple low t n q))

/-- A power of two with any exponent, as a numerator and a denominator. -/
def powerOfTwo (q : Int) : Nat × Nat :=
  if 0 ≤ q then (Nat.pow 2 q.toNat, 1) else (1, Nat.pow 2 (-q).toNat)

/-- The quotient rounded to the nearest whole number, a half going to the even neighbour. -/
def roundDiv (num den : Nat) : Nat :=
  let quotient := num / den
  let twice := 2 * (num % den)
  if twice < den then quotient
  else if twice > den then quotient + 1
  else if quotient % 2 == 0 then quotient else quotient + 1

/-- The number of units of `10^-places` nearest to `m · 2^q`, a half going to the even one. -/
def toPlaces (places m : Nat) (q : Int) : Nat :=
  let (num, den) := powerOfTwo q
  roundDiv (m * num * Nat.pow 10 places) den

/-- The whole number between zero and `±m · 2^q` that is nearest to it. -/
def truncate (negative : Bool) (m : Nat) (q : Int) : Int :=
  let (num, den) := powerOfTwo q
  let size : Int := ((m * num / den : Nat) : Int)
  if negative then -size else size

/-- The significand and the exponent of the number nearest to a positive quotient, a half going to
the even neighbour. -/
def nearest (num den : Nat) : Nat × Int :=
  let guess : Int := (num.log2 : Int) - (den.log2 : Int)
  let (up, down) := powerOfTwo guess
  let top := if num * down < den * up then guess - 1 else guess
  let q := max (top - 52) leastExponent
  let (up, down) := powerOfTwo q
  (roundDiv (num * down) (den * up), q)

end Binary

end TaintFlow
