import TaintFlow.Text.Parts
import TaintFlow.Text.Quoted
import TaintFlow.Text.Similarity

/-!
# Reading command lines

A command line is a list of options and plain arguments. An option either stands alone or takes the
next argument, or what follows an equals sign, as its value. Two dashes end the options.
-/

namespace TaintFlow.CommandLine

/-- How a command line can be wrong. -/
inductive UsageError where
  /-- An option that is not known, with those that may be meant. -/
  | noSuchOption (name : String) (similar : List String)
  | noSuchCommand (name : String) (similar : List String)
  | missingCommand
  | missingValue (option : String)
  | needlessValue (option : String)
  | missingArgument (name : String)
  | missingOption (name : String)
  | invalidValue (parameter reason : String)
  | extraArguments (arguments : List String)
  /-- A path that no file can have. -/
  | impossiblePath
deriving DecidableEq, Repr

/-- The question whether something similar is meant. -/
def proposal : List String → String
  | [] => ""
  | [name] => " Did you mean " ++ Text.quoted name ++ "?"
  | names => " (Did you mean one of: " ++ Text.joinWith ", " (names.map Text.quoted) ++ "?)"

def UsageError.message : UsageError → String
  | noSuchOption name similar => "No such option " ++ Text.quoted name ++ "." ++ proposal similar
  | noSuchCommand name similar => "No such command " ++ Text.quoted name ++ "." ++ proposal similar
  | missingCommand => "Missing command."
  | missingValue option => "Option " ++ Text.quoted option ++ " requires an argument."
  | needlessValue option => "Option " ++ Text.quoted option ++ " does not take a value."
  | missingArgument name => "Missing argument '" ++ name ++ "'."
  | missingOption name => "Missing option '" ++ name ++ "'."
  | invalidValue parameter reason => "Invalid value for '" ++ parameter ++ "': " ++ reason
  | extraArguments [argument] => "Got unexpected extra argument (" ++ argument ++ ")"
  | extraArguments arguments =>
    "Got unexpected extra arguments (" ++ Text.joinWith " " arguments ++ ")"
  | impossiblePath => ""

/-- An option that a command knows. -/
structure Switch where
  name : String
  /-- A single letter that stands for the option. -/
  letter : Option Char := none
  takesValue : Bool := false
deriving DecidableEq, Repr

/-- What a command knows about its command line. -/
structure Grammar where
  switches : List Switch
  /-- Options may also follow plain arguments. -/
  interspersed : Bool

/-- What the next argument is read as. -/
inductive Mode where
  | any
  | valueOf (option : String)
  | plain
deriving DecidableEq, Repr

/-- A command line that has been read up to some point. -/
structure Arguments where
  /-- The options in the order in which they were given. -/
  options : List (String × String)
  plain : List String
  mode : Mode
deriving DecidableEq, Repr

namespace Arguments

def empty : Arguments := ⟨[], [], .any⟩

def addOption (a : Arguments) (name value : String) : Arguments :=
  { a with options := a.options ++ [(name, value)] }

def has (a : Arguments) (name : String) : Bool := a.options.any (fun o => o.1 == name)

def valuesOf (a : Arguments) (name : String) : List String :=
  (a.options.filter (fun o => o.1 == name)).map Prod.snd

/-- The value of an option that counts once: the last one given. -/
def value? (a : Arguments) (name : String) : Option String := (a.valuesOf name).getLast?

/-- The options in the order in which they were first given. -/
def order (a : Arguments) : List String := (a.options.map Prod.fst).eraseDups

end Arguments

namespace Grammar

/-- Reads an option that is given by its name. -/
def readLong (s : Switch) (explicit : Option String) (a : Arguments) :
    Except UsageError Arguments :=
  match s.takesValue, explicit with
  | true, some value => .ok (a.addOption s.name value)
  | true, none => .ok { a with mode := .valueOf s.name }
  | false, none => .ok (a.addOption s.name "")
  | false, some _ => .error (.needlessValue s.name)

/-- Reads options that are given by their letters. -/
def readLetters (g : Grammar) (letters : List Char) (a : Arguments) :
    Except UsageError Arguments :=
  letters.foldlM (fun a c =>
    match g.switches.find? (fun s => s.letter = some c) with
    | some s => .ok (a.addOption s.name "")
    | none => .error (.noSuchOption ("-" ++ String.singleton c) [])) a

/-- Splits an option from the value that follows an equals sign. -/
def splitValue (arg : String) : String × Option String :=
  match Text.splitFirst? "=" arg with
  | some (name, value) => (name, some value)
  | none => (arg, none)

def readOption (g : Grammar) (arg : String) (a : Arguments) : Except UsageError Arguments :=
  let (name, explicit) := splitValue arg
  match g.switches.find? (fun s => s.name == name) with
  | some s => readLong s explicit a
  | none =>
    if (Text.after? "--" arg).isSome then
      .error (.noSuchOption name (Text.proposals (g.switches.map Switch.name) name))
    else g.readLetters (arg.toList.drop 1) a

/-- Reads one argument. -/
def read (g : Grammar) (a : Arguments) (arg : String) : Except UsageError Arguments :=
  match a.mode with
  | .valueOf option => .ok { a.addOption option arg with mode := .any }
  | .plain => .ok { a with plain := a.plain ++ [arg] }
  | .any =>
    if arg = "--" then .ok { a with mode := .plain }
    else if (Text.after? "-" arg).isSome ∧ arg ≠ "-" then g.readOption arg a
    else .ok { a with plain := a.plain ++ [arg], mode := if g.interspersed then .any else .plain }

/-- Reads a whole command line. -/
def parse (g : Grammar) (args : List String) : Except UsageError Arguments := do
  let a ← args.foldlM g.read .empty
  match a.mode with
  | .valueOf option => .error (.missingValue option)
  | _ => return a

end Grammar

end TaintFlow.CommandLine
