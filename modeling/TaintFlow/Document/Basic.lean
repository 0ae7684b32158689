import TaintFlow.Collection.Table
import TaintFlow.Number.Format
import TaintFlow.Text.Quoted
import TaintFlow.Text.Parts

/-!
# Documents

Programs, rules, settings and reports are exchanged as documents: trees of texts, numbers, lists
and objects. Whole and real numbers are kept apart and an object keeps the order of its fields.
`shown` is the notation of a document inside a message.
-/

namespace TaintFlow

inductive Document where
  | null
  | bool (value : Bool)
  | whole (value : Int)
  | real (value : Float)
  | text (value : String)
  | list (items : List Document)
  | object (fields : List (String × Document))
deriving Repr, Inhabited

namespace Document

mutual

/-- Whether two documents are the same tree. -/
def same : Document → Document → Bool
  | .null, .null => true
  | .bool a, .bool b => a == b
  | .whole a, .whole b => a == b
  | .real a, .real b => decide (a = b)
  | .text a, .text b => a == b
  | .list a, .list b => sameItems a b
  | .object a, .object b => sameFields a b
  | _, _ => false

def sameItems : List Document → List Document → Bool
  | [], [] => true
  | a :: as, b :: bs => same a b && sameItems as bs
  | _, _ => false

def sameFields : List (String × Document) → List (String × Document) → Bool
  | [], [] => true
  | (m, a) :: as, (n, b) :: bs => m == n && same a b && sameFields as bs
  | _, _ => false

end

mutual

theorem same_iff : ∀ a b : Document, same a b = true ↔ a = b
  | .null, b => by cases b <;> simp [same]
  | .bool x, b => by cases b <;> simp [same]
  | .whole x, b => by cases b <;> simp [same]
  | .real x, b => by cases b <;> simp [same]
  | .text x, b => by cases b <;> simp [same]
  | .list xs, b => by
    cases b with
    | list ys => simpa [same] using sameItems_iff xs ys
    | _ => simp [same]
  | .object xs, b => by
    cases b with
    | object ys => simpa [same] using sameFields_iff xs ys
    | _ => simp [same]

theorem sameItems_iff : ∀ as bs : List Document, sameItems as bs = true ↔ as = bs
  | [], bs => by cases bs <;> simp [sameItems]
  | a :: as, bs => by
    cases bs with
    | nil => simp [sameItems]
    | cons b bs => simp [sameItems, same_iff a b, sameItems_iff as bs]

theorem sameFields_iff : ∀ as bs : List (String × Document), sameFields as bs = true ↔ as = bs
  | [], bs => by cases bs <;> simp [sameFields]
  | (m, a) :: as, bs => by
    cases bs with
    | nil => simp [sameFields]
    | cons entry bs =>
      obtain ⟨n, b⟩ := entry
      simp [sameFields, same_iff a b, sameFields_iff as bs]

end

instance : DecidableEq Document := fun a b => decidable_of_iff _ (same_iff a b)

mutual

/-- The notation of a document inside a message: texts are quoted. -/
def shown : Document → String
  | .null => "None"
  | .bool value => if value then "True" else "False"
  | .whole value => toString value
  | .real value => RealFormat.plain.write value
  | .text value => Text.quoted value
  | .list items => "[" ++ Text.joinWith ", " (shownItems items) ++ "]"
  | .object fields => "\x7b" ++ Text.joinWith ", " (shownFields fields) ++ "\x7d"

def shownItems : List Document → List String
  | [] => []
  | item :: rest => item.shown :: shownItems rest

def shownFields : List (String × Document) → List String
  | [] => []
  | (name, value) :: rest => (Text.quoted name ++ ": " ++ value.shown) :: shownFields rest

end

/-- A document read as a text: a text stands for itself and anything else for its notation. -/
def asText : Document → String
  | .text value => value
  | other => other.shown

/-- Whether a document counts as present: not null, false, zero or empty. -/
def isTruthy : Document → Bool
  | .null => false
  | .bool value => value
  | .whole value => value ≠ 0
  | .real value => !(value == 0)
  | .text value => !value.isEmpty
  | .list items => !items.isEmpty
  | .object fields => !fields.isEmpty

/-- The name of a document's kind in a message about a setting. -/
def kindName : Document → String
  | .null => "NoneType"
  | .bool _ => "bool"
  | .whole _ => "int"
  | .real _ => "float"
  | .text _ => "str"
  | .list _ => "list"
  | .object _ => "dict"

def isObject : Document → Bool
  | .object _ => true
  | _ => false

def ofTexts (texts : List String) : Document := .list (texts.map .text)

def ofText? : Option String → Document
  | some value => .text value
  | none => .null

def ofNat (n : Nat) : Document := .whole n

def ofTable {α : Type} (f : α → Document) (t : Table α) : Document :=
  .object (t.entries.map (fun (name, value) => (name, f value)))

/-- A field of an object; of anything else, nothing. -/
def field? (d : Document) (name : String) : Option Document :=
  match d with
  | .object fields => fields.lookup name
  | _ => none

end Document

end TaintFlow
