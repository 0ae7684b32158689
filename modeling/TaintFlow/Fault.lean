import TaintFlow.Document.Basic
import TaintFlow.Fidelity.Outcome
import TaintFlow.Program.Malformed

/-!
# Faults

Everything that can stop an operation, by cause. `Invalid` lists the values that are outside their
domain; the other faults are documents of the wrong shape, functions that cannot be analysed, and
runs that were cancelled or failed a fidelity check.
-/

namespace TaintFlow

/-- A value outside its domain. Fields named `shown` hold the value in message notation. -/
inductive Invalid where
  | context (shown : String)
  | origin (shown : String)
  | member (domain shown : String)
  | whole (shown : String)
  | wholeOfNan
  | tooManyDigits (digits : Nat)
  /-- A computed number has too many digits to be shown. -/
  | unshowable
  | real (shown : String)
  | emptyComposite
  | sinkWithoutContext (api : String)
  | sanitizerWithoutContext (api : String)
  | sinkRuleWithoutContext
  | role (shown : String)
  | programShape (path : String)
  | rulesShape
  | level (name : String)
  | levelNumber (n : Int)
  /-- A pair has another number of members. -/
  | pair (members : Nat)
deriving DecidableEq, Repr

/-- As much of a value as a message about whole numbers shows. -/
def shownPart (shown : String) : String := String.ofList (shown.toList.take 200)

def Invalid.message : Invalid → String
  | .context shown => "Unknown context: " ++ shown
  | .origin shown => "Unknown origin kind: " ++ shown
  | .member domain shown => shown ++ " is not a valid " ++ domain
  | .whole shown => "invalid literal for int() with base 10: " ++ shownPart shown
  | .wholeOfNan => "cannot convert float NaN to integer"
  | .tooManyDigits digits =>
    "Exceeds the limit (4300 digits) for integer string conversion: value has "
      ++ toString digits ++ " digits; use sys.set_int_max_str_digits() to increase the limit"
  | .unshowable => "Exceeds the limit (4300 digits) for integer string conversion; "
      ++ "use sys.set_int_max_str_digits() to increase the limit"
  | .real shown => "could not convert string to float: " ++ shown
  | .emptyComposite => "CompositeContext requires at least one layer"
  | .sinkWithoutContext api => "Sink '" ++ api ++ "' declares no context"
  | .sanitizerWithoutContext api => "Sanitizer '" ++ api ++ "' declares no context"
  | .sinkRuleWithoutContext => "sink rule without context"
  | .role shown => "unknown role " ++ shown
  | .programShape path => "Invalid IR file format in " ++ path ++ ": expected an object"
  | .rulesShape => "Invalid rule database format: expected a mapping with a 'rules' list"
  | .level name => "Level '" ++ name ++ "' does not exist"
  | .levelNumber n =>
    "Invalid level value, it should be a positive integer, not: " ++ toString n
  | .pair members =>
    if members < 2 then
      "not enough values to unpack (expected 2, got " ++ toString members ++ ")"
    else "too many values to unpack (expected 2)"

/-- The pass during which a run was cancelled. -/
inductive Pass where
  | summaries
  | concrete
deriving DecidableEq, Repr

/-- A number that does not fit the kind it is needed in. -/
inductive Overflow where
  | power
  | wholeAsReal
  | infiniteAsWhole
  | quotient
deriving DecidableEq, Repr

def Overflow.message : Overflow → String
  | power => "(34, 'Numerical result out of range')"
  | wholeAsReal => "int too large to convert to float"
  | infiniteAsWhole => "cannot convert float infinity to integer"
  | quotient => "integer division result too large for a float"

inductive Fault where
  /-- A value outside its domain. -/
  | invalid (cause : Invalid)
  /-- A document where one of another kind is needed. -/
  | wrongKind
  /-- A field was asked of something that is not an object. -/
  | notAnObject
  /-- A name that is not there. -/
  | missing (name : String)
  /-- A position outside a list. -/
  | outOfRange
  /-- A finding whose label has no origin. -/
  | noOrigin
  | overflow (cause : Overflow)
  /-- A negative power of zero. -/
  | zeroPower
  /-- A text that denotes no document, with what was expected where. -/
  | unreadable (why : String)
  /-- A text whose parts are nested too deep to be read, with the kind of the innermost. -/
  | tooDeep (part : String)
  | malformed (what : Malformed)
  /-- A fixpoint that was not reached within its budget of node visits. -/
  | divergent (function : String) (budget : Document) (visits : Int)
  | cancelled (pass : Pass)
  | unfaithful (outcome : Fidelity.Outcome)
deriving DecidableEq, Repr

/-- What a step that can stop yields. -/
abbrev Result := Except Fault

namespace Fault

def divergence (what : String) (budget : Document) : String :=
  what ++ ": fixpoint did not converge within " ++ budget.asText ++ " iterations"

def unfaithfulMessage (o : Fidelity.Outcome) : String :=
  "Fidelity FAILED at " ++ o.stage.asText ++ ": " ++ Text.joinWith "; " o.errors

/-- The name under which a fault is reported to the user. -/
def kind : Fault → String
  | .invalid _ => "ValueError"
  | .wrongKind => "TypeError"
  | .notAnObject => "AttributeError"
  | .missing _ => "KeyError"
  | .outOfRange => "IndexError"
  | .noOrigin => "AssertionError"
  | .overflow _ => "OverflowError"
  | .zeroPower => "ZeroDivisionError"
  | .unreadable _ => "JSONDecodeError"
  | .tooDeep _ => "RecursionError"
  | .malformed _ => "MalformedIR"
  | .divergent _ _ _ => "NonConvergence"
  | .cancelled _ => "ScanCancelled"
  | .unfaithful _ => "TaintFidelityError"

def message : Fault → String
  | .invalid cause => cause.message
  | .wrongKind => "a value of another kind is needed"
  | .notAnObject => "an object is needed"
  | .missing name => Text.quoted name
  | .outOfRange => "no such position"
  | .noOrigin => ""
  | .overflow cause => cause.message
  | .zeroPower => "0.0 cannot be raised to a negative power"
  | .unreadable why => why
  | .tooDeep part =>
    "maximum recursion depth exceeded while decoding a JSON " ++ part ++ " from a unicode string"
  | .malformed what => what.message
  | .divergent function budget _ => divergence function budget
  | .cancelled .summaries => "Scan cancelled during summary resolution"
  | .cancelled .concrete => "Scan cancelled during concrete propagation"
  | .unfaithful outcome => unfaithfulMessage outcome

/-- The structured part of a fault, empty for most. -/
def details : Fault → List (String × Document)
  | .malformed what => what.details
  | .divergent _ _ visits => [("visits", .whole visits)]
  | .unfaithful o =>
    [("status", .text o.status), ("stage", o.stage), ("errors", .ofTexts o.errors),
      ("warnings", .ofTexts o.warnings)]
  | _ => []

/-- Whether a fault belongs to one function, so that the others can still be analysed. -/
def isLocal : Fault → Bool
  | .malformed _ | .divergent _ _ _ | .cancelled _ | .unfaithful _ => true
  | _ => false

end Fault

end TaintFlow
