/-!
# The code points of a text

A text is a list of code points, among them units of surrogate pairs that stand alone and are no characters.
Such a unit is held as two characters, a mark and a place of its own. The mark is a code point that is not
assigned; where it comes before a place in its own right it is held twice, so each list of code points is held
in one way and each text holds one.
-/

namespace TaintFlow.Text

/-- The character in front of the place of a unit. -/
def mark : Char := Char.ofNat 0xd7ff

/-- Whether a code point is the first unit of a pair. -/
def isHigh (n : Nat) : Bool := 0xd800 ≤ n && n < 0xdc00

/-- Whether a code point is the second unit of a pair. -/
def isLow (n : Nat) : Bool := 0xdc00 ≤ n && n < 0xe000

def isUnit (n : Nat) : Bool := 0xd800 ≤ n && n < 0xe000

/-- The code point of a pair. -/
def pair (high low : Nat) : Nat := 0x10000 + 0x400 * (high - 0xd800) + (low - 0xdc00)

/-- Whether a code point is the place of a unit. -/
def isPlace (n : Nat) : Bool := 0xe000 ≤ n && n < 0xe800

/-- The code points that are held by some characters after a number of marks. -/
def pointsFrom : Nat → List Char → List Nat
  | marks, [] => List.replicate marks mark.toNat
  | marks, c :: rest =>
    if c = mark then pointsFrom (marks + 1) rest
    else if isPlace c.toNat then
      let point := if marks % 2 = 1 then c.toNat - 0x800 else c.toNat
      List.replicate (marks / 2) mark.toNat ++ point :: pointsFrom 0 rest
    else List.replicate marks mark.toNat ++ c.toNat :: pointsFrom 0 rest

/-- The characters that hold some code points after a number of marks. -/
def charsFrom : Nat → List Nat → List Char
  | marks, [] => List.replicate marks mark
  | marks, point :: rest =>
    if point = mark.toNat then charsFrom (marks + 1) rest
    else if isUnit point then
      List.replicate (2 * marks + 1) mark ++ Char.ofNat (point + 0x800) :: charsFrom 0 rest
    else if isPlace point then List.replicate (2 * marks) mark ++ Char.ofNat point :: charsFrom 0 rest
    else List.replicate marks mark ++ Char.ofNat point :: charsFrom 0 rest

def points (s : String) : List Nat := pointsFrom 0 s.toList

/-- The text of some code points. -/
def ofPoints (ps : List Nat) : String := String.ofList (charsFrom 0 ps)

end TaintFlow.Text
