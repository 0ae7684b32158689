import TaintFlow.Document.Basic

/-!
# Malformed functions

Why a function cannot be analysed: its document cannot be read, or its control-flow graph breaks a
structural precondition. Such a function stays known to its callers.
-/

namespace TaintFlow

/-- What is wrong with a function. Fields named `shown` hold a value in message notation. -/
inductive Malformed.Cause where
  | functionWithoutId
  | duplicateFunction
  | nodeWithoutId (shown : String)
  | unknownKind (shownId shownKind : String)
  | badPlacement (node reason : String)
  | duplicateNode (node : String)
  | badParameter (reason : String)
  | missingEntry (entry : String)
  | duplicateParameters (names : List String)
  | danglingSuccessor (node successor : String)
  | returnWithSuccessors (node : String)
  | assignWithoutTarget (node : String)
  | danglingCall (node : String) (callee : Document)
  | unnamedCall (node : String)
deriving DecidableEq, Repr

structure Malformed where
  function : String
  cause : Malformed.Cause
deriving DecidableEq, Repr

namespace Malformed

open Text (quoted joinWith)

def Cause.message : Cause → String
  | .functionWithoutId => "function without id"
  | .duplicateFunction => "duplicate function id"
  | .nodeWithoutId shown => "node without id: " ++ shown
  | .unknownKind shownId shownKind => "node " ++ shownId ++ " has unknown kind " ++ shownKind
  | .badPlacement node reason => "node " ++ quoted node ++ ": " ++ reason
  | .duplicateNode node => "duplicate node id " ++ quoted node
  | .badParameter reason => "bad parameter declaration: " ++ reason
  | .missingEntry entry => "entry node " ++ quoted entry ++ " does not exist"
  | .duplicateParameters names =>
    "duplicate parameter names [" ++ joinWith ", " (names.map quoted) ++ "]"
  | .danglingSuccessor node successor =>
    "node " ++ quoted node ++ " has dangling successor " ++ quoted successor
  | .returnWithSuccessors node => "return node " ++ quoted node ++ " has successors"
  | .assignWithoutTarget node => "assign node " ++ quoted node ++ " has no target"
  | .danglingCall node callee =>
    "call node " ++ quoted node ++ " has dangling call edge to " ++ callee.shown
  | .unnamedCall node => "call node " ++ quoted node ++ " names neither api nor callee"

def message (m : Malformed) : String := m.function ++ ": " ++ m.cause.message

/-- The parts of a function that a message points at. -/
def details (m : Malformed) : List (String × Document) :=
  match m.cause with
  | .danglingSuccessor node successor => [("node", .text node), ("successor", .text successor)]
  | .danglingCall node callee => [("node", .text node), ("callee", callee)]
  | _ => []

/-- The id under which a function without an id is recorded. -/
def anonymous : String := "<anonymous>"

end Malformed

end TaintFlow
