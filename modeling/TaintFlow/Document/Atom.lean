import TaintFlow.Document.Key
import TaintFlow.Document.Reader
import TaintFlow.Document.Text

/-!
# Atoms

A document as a unit, exactly as it was given: `1`, `1.0` and `true` are three atoms of one value.
Names of nodes, positions and marks are mostly texts, whole numbers and truth values, and stand as
atoms because they are shown as they came in. Atoms are ordered texts first, then numbers by their
value, so that a list of them has a place among others; only atoms of one rank are comparable.
-/

namespace TaintFlow

inductive Atom where
  | text (value : String)
  | whole (value : Int)
  /-- A real number as it is written. -/
  | real (written : String)
  | truth (value : Bool)
  | null
  /-- A list or an object as it is written. -/
  | parts (written : String)
deriving DecidableEq, Repr, Inhabited

namespace Atom

instance : Coe String Atom := ⟨.text⟩

instance : Coe Bool Atom := ⟨.truth⟩

def toDocument : Atom → Document
  | text value => .text value
  | whole value => .whole value
  | real written => ((realOfText? written).map .real).getD .null
  | truth value => .bool value
  | null => .null
  | parts written => (Document.read? written).getD .null

/-- What an atom is found by; nothing can be searched by a list or an object. -/
def key? : Atom → Option Key
  | text value => some (.text value)
  | whole value => some (.whole value)
  | real written => some (((realOfText? written).map .ofReal).getD .null)
  | truth value => some (.whole (if value then 1 else 0))
  | null => some .null
  | parts _ => none

def key (a : Atom) : Result Key :=
  match a.key? with
  | some key => .ok key
  | none => .error .wrongKind

/-- Whether two atoms have one value. -/
def same (a b : Atom) : Bool :=
  match a.key?, b.key? with
  | none, none => a = b
  | some x, some y => x = y
  | _, _ => false

def isTruthy (a : Atom) : Bool := a.toDocument.isTruthy

@[simp] theorem isTruthy_truth (b : Bool) : (truth b).isTruthy = b := rfl

/-! ## Order -/

/-- How many of the smallest real number make one. -/
def unit : Int := Nat.pow 2 1074

/-- The value of a number as a multiple of the smallest real number, beyond all of them if it is
infinite; zero for what is no number. -/
def measure : Atom → Int
  | whole value => value * unit
  | truth value => (if value then 1 else 0) * unit
  | real written =>
    match (realOfText? written).map Binary.ofFloat with
    | some (.finite negative m q) => Binary.multiple Binary.leastExponent negative m q
    | some (.infinite negative) => (if negative then -unit else unit) * unit
    | some .nan | none => 0
  | text _ | null | parts _ => 0

/-- Texts come first, then numbers, then the absent value, then what has parts. -/
def rank : Atom → Nat
  | text _ => 0
  | whole _ | real _ | truth _ => 1
  | null => 2
  | parts _ => 3

/-- Tells numbers of one value apart by how they are given. -/
def kind : Atom → Nat
  | text _ | whole _ | null | parts _ => 0
  | real _ => 1
  | truth _ => 2

def letters : Atom → String
  | text value => value
  | real written | parts written => written
  | whole _ | truth _ | null => ""

def size : Atom → Int
  | whole value => value
  | truth value => if value then 1 else 0
  | text _ | real _ | null | parts _ => 0

theorem eq_of_parts {a b : Atom} (hr : a.rank = b.rank) (hk : a.kind = b.kind)
    (hl : a.letters = b.letters) (hs : a.size = b.size) : a = b := by
  cases a with
  | truth x => cases b <;> cases x <;> simp_all [rank, kind, letters, size]
  | _ => cases b <;> simp_all [rank, kind, letters, size]

/-- By rank and value; the rest only tells apart what these cannot. -/
def order : Atom → Atom → Ordering :=
  compareLex (compareOn rank) (compareLex (compareOn measure)
    (compareLex (compareOn kind) (compareLex (compareOn letters) (compareOn size))))

instance : Ord Atom := ⟨order⟩

instance : Std.TransOrd Atom :=
  inferInstanceAs (Std.TransCmp (compareLex (compareOn rank) (compareLex (compareOn measure)
    (compareLex (compareOn kind) (compareLex (compareOn letters) (compareOn size))))))

instance : Std.LawfulEqOrd Atom where
  eq_of_compare {a b} h := by
    have h : order a b = .eq := h
    simp only [order, compareLex, compareOn, Ordering.then_eq_eq] at h
    obtain ⟨hr, -, hk, hl, hs⟩ := h
    exact eq_of_parts (Std.LawfulEqOrd.eq_of_compare hr) (Std.LawfulEqOrd.eq_of_compare hk)
      (Std.LawfulEqOrd.eq_of_compare hl) (Std.LawfulEqOrd.eq_of_compare hs)
  compare_self := Std.ReflOrd.compare_self

/-- Whether two lists of atoms have places in one order: where they first differ, their atoms are of
one rank. -/
def areComparable : List Atom → List Atom → Bool
  | a :: as, b :: bs => if a.same b then areComparable as bs else a.rank = b.rank
  | _, _ => true

end Atom

/-- A document as it was given. -/
def Document.atom : Document → Atom
  | .text value => .text value
  | .whole value => .whole value
  | .real value => .real (RealFormat.plain.write value)
  | .bool value => .truth value
  | .null => .null
  | d => .parts d.canonical

end TaintFlow
