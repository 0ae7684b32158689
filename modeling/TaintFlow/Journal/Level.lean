import TaintFlow.Fault

/-!
# Levels of importance

What a run has to tell is graded. Each level has a rank, by which it is compared with a threshold,
and a code, by which it appears in structured lines. A level can also be given by its rank alone.
-/

namespace TaintFlow

inductive Level where
  | trace
  | debug
  | info
  | success
  | warning
  | error
  | critical
  | numbered (rank : Nat)
deriving DecidableEq, Repr

namespace Level

/-- The levels that have a name. -/
def all : List Level := [trace, debug, info, success, warning, error, critical]

def name : Level → String
  | trace => "TRACE"
  | debug => "DEBUG"
  | info => "INFO"
  | success => "SUCCESS"
  | warning => "WARNING"
  | error => "ERROR"
  | critical => "CRITICAL"
  | numbered rank => "Level " ++ toString rank

def rank : Level → Nat
  | trace => 5
  | debug => 10
  | info => 20
  | success => 25
  | warning => 30
  | error => 40
  | critical => 50
  | numbered rank => rank

/-- The code of a level in structured lines. A success and what has no name count as information
there. -/
def code : Level → Nat
  | trace => 10
  | debug => 20
  | info => 30
  | success => 30
  | warning => 40
  | error => 50
  | critical => 60
  | numbered _ => 30

def ofName? (s : String) : Option Level := all.find? (fun l => l.name == s)

/-- The level that a document states by its name or its rank. -/
def ofDocument (d : Document) : Result Level :=
  match d with
  | .text name =>
    match ofName? name with
    | some level => .ok level
    | none => .error (.invalid (.level name))
  | .bool value => .ok (.numbered (if value then 1 else 0))
  | .whole (.ofNat rank) => .ok (.numbered rank)
  | .whole n => .error (.invalid (.levelNumber n))
  | _ => .error .wrongKind

end Level

/-- Something a run has to tell. -/
structure Notice where
  level : Level
  message : String
deriving DecidableEq, Repr

namespace Notice

def debug (message : String) : Notice := ⟨.debug, message⟩

def info (message : String) : Notice := ⟨.info, message⟩

def warning (message : String) : Notice := ⟨.warning, message⟩

def error (message : String) : Notice := ⟨.error, message⟩

end Notice

end TaintFlow
