import TaintFlow.Collection.OrderedMap
import TaintFlow.Fault
import TaintFlow.Number.Read

/-!
# Keys

What a table can be searched by: any value without parts. A number is found by its value, whether it
was given as a whole number, as a real one or as a truth value. Lists and objects are no keys.
-/

namespace TaintFlow

inductive Key where
  | text (value : String)
  | whole (value : Int)
  /-- A number that is not whole, as it is written. -/
  | fraction (written : String)
  | null
deriving DecidableEq, Repr, Inhabited

namespace Key

/-- Texts come first, then numbers, then the absent value. -/
def rank : Key → Nat
  | text _ => 0
  | whole _ => 1
  | fraction _ => 2
  | null => 3

def letters : Key → String
  | text value => value
  | fraction written => written
  | whole _ | null => ""

def size : Key → Int
  | whole value => value
  | text _ | fraction _ | null => 0

theorem eq_of_parts {a b : Key} (hr : a.rank = b.rank) (hl : a.letters = b.letters)
    (hs : a.size = b.size) : a = b := by
  cases a <;> cases b <;> simp_all [rank, letters, size]

instance : Ord Key :=
  ⟨compareLex (compareOn rank) (compareLex (compareOn letters) (compareOn size))⟩

instance : Std.TransOrd Key :=
  inferInstanceAs (Std.TransCmp
    (compareLex (compareOn rank) (compareLex (compareOn letters) (compareOn size))))

instance : Std.LawfulEqOrd Key where
  eq_of_compare {a b} h := by
    have h : compareLex (compareOn rank) (compareLex (compareOn letters) (compareOn size)) a b
      = .eq := h
    simp only [compareLex, compareOn, Ordering.then_eq_eq] at h
    exact eq_of_parts (Std.LawfulEqOrd.eq_of_compare h.1)
      (Std.LawfulEqOrd.eq_of_compare h.2.1) (Std.LawfulEqOrd.eq_of_compare h.2.2)
  compare_self := Std.ReflOrd.compare_self

def ofReal (x : Float) : Key :=
  match Binary.ofFloat x with
  | .finite negative m q =>
    let n := Binary.truncate negative m q
    if (Binary.ofWhole n).compare? (.finite negative m q) = some .eq then .whole n
    else .fraction (RealFormat.plain.write x)
  | _ => .fraction (RealFormat.plain.write x)

def toDocument : Key → Document
  | text value => .text value
  | whole value => .whole value
  | fraction written => ((realOfText? written).map .real).getD .null
  | null => .null

/-- The name of a key as a field of an object. -/
def name : Key → String
  | text value => value
  | whole value => toString value
  | fraction written => written
  | null => "null"

/-- Whether some keys can be put in order: they are all texts, all numbers, or there is only one. -/
def areOrdered (keys : List Key) : Bool :=
  keys.all (fun k => k.rank = 0) || keys.all (fun k => k.rank = 1 || k.rank = 2)
    || keys.length ≤ 1

end Key

/-- The key that a document is found by. -/
def Document.key? : Document → Option Key
  | .null => some .null
  | .bool value => some (.whole (if value then 1 else 0))
  | .whole value => some (.whole value)
  | .real value => some (.ofReal value)
  | .text value => some (.text value)
  | .list _ | .object _ => none

/-- The key of a document that is about to be looked up. -/
def Document.key (d : Document) : Result Key :=
  match d.key? with
  | some key => .ok key
  | none => .error .wrongKind

/-- A finite map from keys. -/
abbrev KeyMap (α : Type) := OrderedMap Key α

end TaintFlow
