import TaintFlow.Text.Blank
import TaintFlow.Text.Digit
import TaintFlow.Text.Case

/-!
# Numbers from text

A whole number is a sign and decimal digits of any script, a real number also a fraction and an
exponent. White space around it is ignored and single underscores may stand between digits.
-/

namespace TaintFlow

/-- Replaces digits of every script by the ASCII ones. -/
def plainDigits (cs : List Char) : List Char :=
  cs.map (fun c => match Text.digitValue? c with
    | some value => Char.ofNat (48 + value)
    | none => c)

/-- Removes underscores, each of which must stand between two digits. -/
def joinDigits? (afterDigit : Bool) : List Char → Option (List Char)
  | [] => some []
  | '_' :: rest =>
    match rest with
    | c :: _ => if afterDigit && c.isDigit then joinDigits? false rest else none
    | [] => none
  | c :: rest => (joinDigits? c.isDigit rest).map (c :: ·)

def valueOfDigits (digits : List Char) : Nat :=
  digits.foldl (fun n c => 10 * n + (c.toNat - 48)) 0

/-- Takes a sign off the front: whether the number is negative, and the rest. -/
def takeSign : List Char → Bool × List Char
  | '-' :: rest => (true, rest)
  | '+' :: rest => (false, rest)
  | cs => (false, cs)

def signedWhole (negative : Bool) (n : Nat) : Int :=
  if negative then -(n : Int) else n

/-- Why a text denotes no whole number. -/
inductive NotWhole where
  /-- It is no sign and digits. -/
  | shape
  /-- It has more digits than are read. -/
  | tooLong (digits : Nat)
deriving DecidableEq, Repr

/-- The most digits that a whole number may have when it is read. -/
def digitLimit : Nat := 4300

/-- The whole number that a text denotes. Digits are counted before what follows them is looked
at. -/
def wholeOfText (s : String) : Except NotWhole Int :=
  let (negative, body) := takeSign (plainDigits (Text.strip Text.isWhite s.toList))
  let front := body.takeWhile (fun c => c.isDigit || c = '_')
  match joinDigits? false front with
  | none | some [] => .error .shape
  | some digits =>
    if digits.length > digitLimit then .error (.tooLong digits.length)
    else if front.length < body.length then .error .shape
    else .ok (signedWhole negative (valueOfDigits digits))

/-- The real number nearest to `±n · 10^e`. Exponents far outside the range of the format are
cut off before the power is formed. -/
def realOfDecimal (negative : Bool) (n : Nat) (e : Int) : Float :=
  let digits : Int := (Nat.toDigits 10 n).length
  let size :=
    if n == 0 || digits + e < -400 then Float.ofScientific 0 false 0
    else if digits + e > 400 then Float.ofScientific 1 false 400
    else if 0 ≤ e then Float.ofScientific n false e.toNat
    else Float.ofScientific n true (-e).toNat
  if negative then -size else size

/-- The exponent part of a decimal, empty or `e` with a whole number. -/
def exponentOf? : List Char → Option Int
  | [] => some 0
  | c :: rest =>
    if c = 'e' || c = 'E' then
      let (negative, digits) := takeSign rest
      if digits.isEmpty || !digits.all Char.isDigit then none
      else some (signedWhole negative (valueOfDigits digits))
    else none

/-- The real number that an unsigned decimal denotes. -/
def decimalOf? (negative : Bool) (cs : List Char) : Option Float := do
  let whole := cs.takeWhile Char.isDigit
  let rest := cs.dropWhile Char.isDigit
  let (fraction, rest) := match rest with
    | '.' :: more => (more.takeWhile Char.isDigit, more.dropWhile Char.isDigit)
    | _ => ([], rest)
  if whole.isEmpty && fraction.isEmpty then none
  else
    let exponent ← exponentOf? rest
    some (realOfDecimal negative (valueOfDigits (whole ++ fraction))
      (exponent - (fraction.length : Int)))

/-- The real number that a text denotes, the names of the numbers that are not finite included. -/
def realOfText? (s : String) : Option Float := do
  let cs ← joinDigits? false (plainDigits (Text.strip Text.isWhite s.toList))
  let (negative, body) := takeSign cs
  let name := body.map Char.toLower
  if name == "inf".toList || name == "infinity".toList then
    some (realOfDecimal negative 1 400)
  else if name == "nan".toList then some (Float.ofScientific 0 false 0 / Float.ofScientific 0 false 0)
  else decimalOf? negative body

end TaintFlow
