import TaintFlow.Number.Shortest

/-!
# Numbers as text

A real number always shows a point or an exponent. Numbers from `10^-4` up to `10^16` are written
positionally; others have an exponent with a sign and at least two digits.
-/

namespace TaintFlow

/-- How real numbers are written. -/
structure RealFormat where
  /-- Positional notation is used for `0.d₁d₂… · 10^k` with `k` above this. -/
  positionalAbove : Int
  /-- Positional notation is used up to this `k`. -/
  positionalUpTo : Int
  exponentWidth : Nat
  nan : String
  infinite : String

namespace RealFormat

/-- The notation of messages and reports. -/
def plain : RealFormat := ⟨-4, 16, 2, "nan", "inf"⟩

/-- The notation of documents, which differs in the names of the numbers that are not finite. -/
def document : RealFormat := ⟨-4, 16, 2, "NaN", "Infinity"⟩

def zeros (n : Nat) : List Char := List.replicate n '0'

/-- Writes `0.digits · 10^k`. -/
def layout (format : RealFormat) (digits : List Char) (k : Int) : List Char :=
  if format.positionalAbove < k ∧ k ≤ format.positionalUpTo then
    if k ≤ 0 then '0' :: '.' :: (zeros (-k).toNat ++ digits)
    else if digits.length ≤ k.toNat then
      digits ++ zeros (k.toNat - digits.length) ++ ['.', '0']
    else digits.take k.toNat ++ '.' :: digits.drop k.toNat
  else
    let exponent := k - 1
    let size := (toString exponent.natAbs).toList
    let mantissa := match digits with
      | [] => ['0']
      | [d] => [d]
      | d :: rest => d :: '.' :: rest
    mantissa ++ 'e' :: (if exponent < 0 then '-' else '+')
      :: (zeros (format.exponentWidth - size.length) ++ size)

def writeMagnitude (format : RealFormat) (m : Nat) (q : Int) : List Char :=
  if m == 0 then ['0', '.', '0']
  else
    let (c, g) := Shortest.decimal m q
    let digits := (toString c).toList
    format.layout (Shortest.dropZeros digits).1 (digits.length + g)

def write (format : RealFormat) (x : Float) : String :=
  match Binary.ofFloat x with
  | .nan => format.nan
  | .infinite negative => (if negative then "-" else "") ++ format.infinite
  | .finite negative m q =>
    String.ofList ((if negative then ['-'] else []) ++ format.writeMagnitude m q)

end RealFormat

/-- A number with a fixed count of places, a half going to the even neighbour. -/
def fixedPlaces (places : Nat) (x : Float) : String :=
  match Binary.ofFloat x with
  | .nan => "nan"
  | .infinite negative => (if negative then "-" else "") ++ "inf"
  | .finite negative m q =>
    let digits := (toString (Binary.toPlaces places m q)).toList
    let padded := RealFormat.zeros (places + 1 - digits.length) ++ digits
    let whole := padded.take (padded.length - places)
    let rest := padded.drop (padded.length - places)
    String.ofList ((if negative then ['-'] else []) ++ whole
      ++ (if places == 0 then [] else '.' :: rest))

/-- The nearest number with at most the given count of places, a half going to the even one. -/
def roundPlaces (places : Nat) (x : Float) : Float :=
  match Binary.ofFloat x with
  | .finite negative m q =>
    let size := Float.ofScientific (Binary.toPlaces places m q) true places
    if negative then -size else size
  | _ => x

end TaintFlow
