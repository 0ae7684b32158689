import TaintFlow.Collection.OrderedSet
import TaintFlow.Document.Coerce
import TaintFlow.Text.Name

/-!
# Origins

Where data from outside enters a program. Of two explanations of one flow, the one with the more
specific origin is the better.
-/

namespace TaintFlow

inductive Origin where
  | networkParameter
  | header
  | cookie
  | storedRecord
  | fileContent
  | environment
  | unknownExternal
deriving DecidableEq, Repr

namespace Origin

def all : List Origin :=
  [networkParameter, header, cookie, storedRecord, fileContent, environment, unknownExternal]

def name : Origin → String
  | networkParameter => "network-parameter"
  | header => "header"
  | cookie => "cookie"
  | storedRecord => "stored-record"
  | fileContent => "file-content"
  | environment => "environment"
  | unknownExternal => "unknown-external"

def specificity : Origin → Int
  | networkParameter => 5
  | storedRecord => 5
  | header => 4
  | cookie => 4
  | fileContent => 3
  | environment => 2
  | unknownExternal => 0

theorem find?_name (o : Origin) : all.find? (fun a => a.name == o.name) = some o := by
  cases o <;> decide

theorem name_injective {a b : Origin} (h : a.name = b.name) : a = b := by
  have ha := find?_name a
  rw [h, find?_name b] at ha
  exact (Option.some.inj ha).symm

/-- Origins are ordered by their names. -/
instance : Ord Origin := ⟨compareOn name⟩

instance : Std.TransOrd Origin := inferInstanceAs (Std.TransCmp (compareOn name))

instance : Std.LawfulEqOrd Origin where
  eq_of_compare h := name_injective (Std.LawfulEqOrd.eq_of_compare (α := String) h)
  compare_self := Std.ReflOrd.compare_self (α := String)

def parse? (s : String) : Option Origin := Text.findNamed? all name s

def ofDocument (d : Document) : Result Origin :=
  match parse? d.asText with
  | some o => .ok o
  | none => .error (.invalid (.origin d.shown))

/-- The more specific of two origins; of equally specific ones, the one with the later name. -/
def prefer (a b : Origin) : Origin :=
  if a.specificity < b.specificity then b
  else if b.specificity < a.specificity then a
  else if compare a b = .lt then b else a

end Origin

end TaintFlow
