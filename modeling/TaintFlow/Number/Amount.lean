import TaintFlow.Document.Coerce

/-!
# Amounts

A number that remembers whether it was given as a whole number, as a real one or as a truth value,
which counts as one or zero. Amounts are compared by their exact values and written the way they
were given.
-/

namespace TaintFlow

inductive Amount where
  | truth (b : Bool)
  | whole (n : Int)
  | real (x : Float)
deriving DecidableEq, Repr

namespace Amount

def toDocument : Amount → Document
  | truth b => .bool b
  | whole n => .whole n
  | real x => .real x

/-- The exact value of an amount. -/
def exact : Amount → Binary
  | truth b => .ofWhole (if b then 1 else 0)
  | whole n => .ofWhole n
  | real x => .ofFloat x

/-- The order of two amounts by their exact values. -/
def compare? (a b : Amount) : Option Ordering := a.exact.compare? b.exact

def isBelow (a b : Amount) : Bool := a.compare? b = some .lt

def isAbove (a b : Amount) : Bool := a.compare? b = some .gt

def equals (a b : Amount) : Bool := a.compare? b = some .eq

/-- The nearest real number. -/
def toReal (a : Amount) : Result Float := a.toDocument.toReal

/-- An operation that is carried out in whole numbers unless a real one takes part. -/
def combine (whole : Int → Int → Int) (real : Float → Float → Float) (a b : Amount) :
    Result Amount := do
  match a, b with
  | .real _, _ | _, .real _ => return .real (real (← a.toReal) (← b.toReal))
  | _, _ => return .whole (whole (← a.toDocument.toWhole) (← b.toDocument.toWhole))

/-- A multiple of an amount. -/
def times (a : Amount) (n : Nat) : Amount :=
  match a with
  | truth b => .whole (if b then n else 0)
  | whole m => .whole (m * n)
  | real x => .real (x * Float.ofNat n)

/-- The greatest whole number that is not above an amount, zero at least. Nothing bounds a number
that is not comparable or infinite. -/
def bound? (a : Amount) : Option Nat :=
  match a.exact with
  | .nan | .infinite false => none
  | .infinite true => some 0
  | .finite negative m q => some (Binary.truncate negative m q).toNat

/-- A whole number moved between two ends. -/
def clamp (low high n : Int) : Int := max low (min high n)

/-- The greatest whole number between two ends that is not above an amount, the lower end if none
is. -/
def floorWithin (a : Amount) (low high : Int) : Int :=
  match a.exact with
  | .nan | .infinite true => low
  | .infinite false => high
  | .finite negative m q =>
    let n := Binary.truncate negative m q
    clamp low high (if (whole n).isAbove a then n - 1 else n)

/-- The least whole number between two ends that is not below an amount, `unordered` for what cannot
be compared. -/
def ceilingWithin (a : Amount) (low high unordered : Int) : Int :=
  match a.exact with
  | .nan => unordered
  | .infinite negative => if negative then low else high
  | .finite negative m q =>
    let n := Binary.truncate negative m q
    clamp low high (if (whole n).isBelow a then n + 1 else n)

def plus : Amount → Amount → Result Amount := combine (· + ·) (· + ·)

def minus : Amount → Amount → Result Amount := combine (· - ·) (· - ·)

/-- The real number nearest to the quotient of two whole numbers. -/
def wholeQuotient (a b : Int) : Result Float :=
  if a = 0 then .ok (Float.ofScientific 0 false 0)
  else
    let (m, q) := Binary.nearest a.natAbs b.natAbs
    let size := (Float.ofNat m).scaleB q
    if size.isInf then .error (.overflow .quotient)
    else .ok (if (a < 0) = (b < 0) then size else -size)

/-- The quotient of two amounts of which the second is not zero. -/
def quotient (a b : Amount) : Result Float := do
  match a, b with
  | .real _, _ | _, .real _ => return (← a.toReal) / (← b.toReal)
  | _, _ => wholeQuotient (← a.toDocument.toWhole) (← b.toDocument.toWhole)

end Amount

namespace Document

/-- The amount that a document states, if it states one. -/
def amount? : Document → Option Amount
  | .bool value => some (.truth value)
  | .whole value => some (.whole value)
  | .real value => some (.real value)
  | _ => none

def amount (d : Document) : Result Amount :=
  match d.amount? with
  | some a => .ok a
  | none => .error .wrongKind

mutual

/-- Whether two documents have the same value: numbers are compared by their amounts and the order
of an object's fields does not matter. -/
def equals : Document → Document → Bool
  | .null, .null => true
  | .whole a, .whole b => a == b
  | .text a, .text b => a == b
  | .list as, .list bs => equalItems as bs
  | .object as, .object bs => as.length == bs.length && equalFields as bs
  | a, b =>
    match a.amount?, b.amount? with
    | some x, some y => x.equals y
    | _, _ => false

def equalItems : List Document → List Document → Bool
  | [], [] => true
  | a :: as, b :: bs => equals a b && equalItems as bs
  | _, _ => false

/-- Whether every field of one object has an equal one in the other. -/
def equalFields : List (String × Document) → List (String × Document) → Bool
  | [], _ => true
  | (name, a) :: as, bs =>
    (match bs.lookup name with
      | some b => equals a b
      | none => false) && equalFields as bs

end

end Document

end TaintFlow
