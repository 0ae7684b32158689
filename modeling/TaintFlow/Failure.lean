import TaintFlow.Document.Coerce
import TaintFlow.Document.Key

/-!
# Failures as they are reported

A failure is known to the user by its kind and its message. Failures that the user can mend by
changing an input are told apart from the others, and a failed fidelity check is explained with its
errors. A command that fails also leaves an entry in the error log.
-/

namespace TaintFlow

structure Failure where
  kind : String
  message : String
  /-- The structured part, an object unless something else was given for it. -/
  details : Document

namespace Failure

/-- A failure without a structured part. -/
def plain (kind message : String) : Failure := ⟨kind, message, .object []⟩

def ofFault (f : Fault) : Failure := ⟨f.kind, f.message, .object f.details⟩

/-- The message of a failure with several parts: a single part stands for itself. -/
def messageOf : List Document → String
  | [] => ""
  | [part] => part.asText
  | parts => "(" ++ Text.joinWith ", " (parts.map Document.shown) ++ ")"

/-- The structured part of a failure, if it was given one that counts. -/
def detailsOf (d : Option Document) : Document := (d.filter Document.isTruthy).getD (.object [])

/-- What a kind of failure is made of: the parts that it needs, and how many more it takes. -/
structure Shape where
  /-- The kind whose shape this is. -/
  owner : String
  required : List String
  optional : Nat

/-- The kinds of failures that are made of parts of their own. -/
def shapes : List (String × Shape) :=
  let general : Shape := ⟨"TaintError", ["message"], 1⟩
  [("TaintError", general), ("ScanCancelled", general), ("TaintFidelityError", general),
    ("MalformedIR", ⟨"MalformedIR", ["function_id", "message"], 1⟩),
    ("NonConvergence", ⟨"NonConvergence", ["function_id", "budget"], 1⟩),
    ("ClickException", ⟨"ClickException", ["message"], 0⟩),
    ("BadParameter", ⟨"BadParameter", ["message"], 3⟩)]

/-- The kinds of failures that take any parts. -/
def openKinds : List String := ["ValueError", "KeyError", "TypeError", "RuntimeError"]

/-- What is wrong with a number of parts. -/
def Shape.complaint? (s : Shape) (count : Nat) : Option String :=
  let needed := s.required.length
  let missing := (s.required.drop count).map (fun name => "'" ++ name ++ "'")
  let most := needed + s.optional + 1
  let range := if s.optional = 0 then toString most
    else "from " ++ toString (needed + 1) ++ " to " ++ toString most
  let complaint := if count < needed then
      some ("missing " ++ toString missing.length ++ " required positional argument"
        ++ (if missing.length = 1 then "" else "s") ++ ": " ++ Text.joinWith " and " missing)
    else if most < count + 1 then
      some ("takes " ++ range ++ " positional arguments but " ++ toString (count + 1)
        ++ " were given")
    else none
  complaint.map (fun text => s.owner ++ ".__init__() " ++ text)

/-- The failure of a known kind. Kinds that concern a function start their message with it, and a
missing name is shown in quotes. -/
def ofKind (kind : String) (parts : List Document) : Failure :=
  match kind, parts with
  | "KeyError", [name] => plain kind name.shown
  | "MalformedIR", function :: message :: rest =>
    ⟨kind, function.asText ++ ": " ++ message.asText, detailsOf rest.head?⟩
  | "NonConvergence", function :: budget :: rest =>
    ⟨kind, function.asText ++ ": fixpoint did not converge within " ++ budget.asText
      ++ " iterations", detailsOf rest.head?⟩
  | "TaintError", message :: rest
  | "ScanCancelled", message :: rest
  | "TaintFidelityError", message :: rest =>
    ⟨kind, message.asText, detailsOf rest.head?⟩
  | "ClickException", message :: _
  | "BadParameter", message :: _ => plain kind message.asText
  | _, _ => plain kind (messageOf parts)

/-- The failure of a kind that is made of the given parts, or the failure to make it: its kind is
not known, or the parts are too few or too many. -/
def ofParts (kind : Document) (parts : List Document) : Except Failure Failure :=
  match kind.key? with
  | none => .error (plain "TypeError" ("unhashable type: '" ++ kind.kindName ++ "'"))
  | some _ =>
    match kind with
    | .text name =>
      match (shapes.lookup name).map (fun shape => shape.complaint? parts.length) with
      | some (some complaint) => .error (plain "TypeError" complaint)
      | some none => .ok (ofKind name parts)
      | none => if name ∈ openKinds then .ok (ofKind name parts)
        else .error (plain "KeyError" kind.shown)
    | _ => .error (plain "KeyError" kind.shown)

/-- Kinds of failures that come from an input which the user can mend. -/
def inputKinds : List String :=
  ["ValueError", "KeyError", "YAMLError", "JSONDecodeError", "UnicodeDecodeError"]

/-- The lines that explain a failed fidelity check. -/
def fidelityLines (f : Failure) : Result (List String) := do
  let errors ← ((← f.details.get? "errors").getD (.list [])).members
  let stage := ((← f.details.get? "stage").getD (.text "?")).asText
  return ["Fidelity check failed at stage '" ++ stage ++ "'"]
    ++ errors.map (fun e => "  - " ++ e.asText)
    ++ ["Set SINKTRACE_FIDELITY_STRICT=0 to report instead of failing."]

/-- What the user is told about a failure, if its structured part allows it. -/
def explanation (f : Failure) : Result String :=
  if f.kind = "TaintFidelityError" then do return Text.joinWith "\n" (← f.fidelityLines)
  else if f.kind ∈ inputKinds then .ok ("Invalid input (" ++ f.kind ++ "): " ++ f.message)
  else .ok (f.kind ++ ": " ++ f.message)

def logPath : String := ".sinktrace/error.log"

/-- The text with which a failed command ends. -/
def report (f : Failure) : Result String := do
  return (← f.explanation) ++ "\n\nFull traceback logged to: " ++ logPath

def logRule : String := String.ofList (List.replicate 80 '=')

/-- The entry of a failed command in the error log. -/
def logEntry (f : Failure) (stamp command request : String) : String :=
  Text.joinWith "\n" ["", logRule, stamp ++ command ++ " failed (request " ++ request ++ ")",
    logRule, f.kind ++ ": " ++ f.message, "", logRule, "", ""]

end Failure

end TaintFlow
