import TaintFlow.Collection.OrderedSet
import TaintFlow.Document.Coerce
import TaintFlow.Text.Name

/-!
# Contexts

The syntactic environment into which a value is placed at a sink. It decides which neutralization
protects the value.
-/

namespace TaintFlow

inductive Context where
  | rawCommandInterpreter
  | htmlBody
  | htmlAttribute
  | scriptLiteral
  | urlParameter
  | cssValue
  | filesystemPath
  | redirectTarget
  | forwardTarget
  | logRecord
deriving DecidableEq, Repr

namespace Context

def all : List Context :=
  [rawCommandInterpreter, htmlBody, htmlAttribute, scriptLiteral, urlParameter, cssValue,
    filesystemPath, redirectTarget, forwardTarget, logRecord]

def name : Context → String
  | rawCommandInterpreter => "raw-command-interpreter"
  | htmlBody => "html-body"
  | htmlAttribute => "html-attribute"
  | scriptLiteral => "script-literal"
  | urlParameter => "url-parameter"
  | cssValue => "css-value"
  | filesystemPath => "filesystem-path"
  | redirectTarget => "redirect-target"
  | forwardTarget => "forward-target"
  | logRecord => "log-record"

theorem find?_name (c : Context) : all.find? (fun a => a.name == c.name) = some c := by
  cases c <;> decide

theorem name_injective {a b : Context} (h : a.name = b.name) : a = b := by
  have ha := find?_name a
  rw [h, find?_name b] at ha
  exact (Option.some.inj ha).symm

/-- Contexts are ordered by their names. -/
instance : Ord Context := ⟨compareOn name⟩

instance : Std.TransOrd Context := inferInstanceAs (Std.TransCmp (compareOn name))

instance : Std.LawfulEqOrd Context where
  eq_of_compare h := name_injective (Std.LawfulEqOrd.eq_of_compare (α := String) h)
  compare_self := Std.ReflOrd.compare_self (α := String)

def parse? (s : String) : Option Context := Text.findNamed? all name s

def ofDocument (d : Document) : Result Context :=
  match parse? d.asText with
  | some c => .ok c
  | none => .error (.invalid (.context d.shown))

def ofDocuments (ds : List Document) : Result (List Context) := ds.mapM ofDocument

end Context

/-- Contexts in which a value has several encoded forms, so that checking it means something only
after it has been brought to one form. -/
def defaultCanonicalized : OrderedSet Context :=
  .ofList [.filesystemPath, .rawCommandInterpreter]

end TaintFlow
