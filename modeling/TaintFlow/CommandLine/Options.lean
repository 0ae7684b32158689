import TaintFlow.CommandLine.Usage
import TaintFlow.Context
import TaintFlow.Number.Read
import TaintFlow.Origin
import TaintFlow.Severity
import TaintFlow.Workspace

/-!
# Commands and their options

What the user can ask for: a scan of a program, a look at a rule database, the version or help. The
parameters of a command are checked in the order in which they were given, plain arguments after
options, and those that are missing last.
-/

namespace TaintFlow.CommandLine

structure ScanOptions where
  program : String
  rules : String
  output : Option String
  json : Bool
  severity : Option Severity
  minConfidence : Option Float
  contexts : List Context
  origins : List Origin
  workers : Option Int

structure RulesOptions where
  rules : String
  json : Bool
deriving DecidableEq, Repr

inductive Command where
  | scan (options : ScanOptions)
  | rules (options : RulesOptions)
  | version
  | help (command : Option String)
  /-- Nothing was asked for. -/
  | nothing

def helpSwitch : Switch := ⟨"--help", none, false⟩

def mainGrammar : Grammar :=
  ⟨[⟨"--version", none, false⟩, ⟨"--help", some 'h', false⟩, ⟨"--verbose", some 'v', false⟩], false⟩

def scanGrammar : Grammar :=
  ⟨[⟨"--rules", none, true⟩, ⟨"--output", none, true⟩, ⟨"--json", none, false⟩,
    ⟨"--severity", none, true⟩, ⟨"--min-confidence", none, true⟩, ⟨"--context", none, true⟩,
    ⟨"--origin", none, true⟩, ⟨"--workers", none, true⟩, helpSwitch], true⟩

def rulesGrammar : Grammar := ⟨[⟨"--json", none, false⟩, helpSwitch], true⟩

/-- The path of an existing file. -/
def fileOf (w : Workspace) (parameter path : String) : Except UsageError String :=
  if Workspace.isImpossible path then .error .impossiblePath
  else if (w.text? path).isSome then .ok path
  else if w.isDirectory path then
    .error (.invalidValue parameter ("File " ++ Text.quoted path ++ " is a directory."))
  else .error (.invalidValue parameter ("File " ++ Text.quoted path ++ " does not exist."))

def severityOf (value : String) : Except UsageError Severity :=
  match Severity.all.find? (fun s => s.name == value) with
  | some s => .ok s
  | none =>
    .error (.invalidValue "--severity" (Text.quoted value ++ " is not one of "
      ++ Text.joinWith ", " (Severity.all.map (fun s => Text.quoted s.name)) ++ "."))

def confidenceOf (value : String) : Except UsageError Float :=
  match realOfText? value with
  | none =>
    .error (.invalidValue "--min-confidence" (Text.quoted value ++ " is not a valid float range."))
  | some x =>
    if x < 0.0 || x > 1.0 then
      .error (.invalidValue "--min-confidence"
        (RealFormat.plain.write x ++ " is not in the range 0.0<=x<=1.0."))
    else .ok x

def workersOf (value : String) : Except UsageError Int :=
  match wholeOfText value with
  | .error _ =>
    .error (.invalidValue "--workers" (Text.quoted value ++ " is not a valid integer range."))
  | .ok n =>
    if n < 1 then .error (.invalidValue "--workers" (toString n ++ " is not in the range x>=1."))
    else .ok n

def contextOf (value : String) : Except UsageError Context :=
  match Context.ofDocument (.text value) with
  | .ok c => .ok c
  | .error f => .error (.invalidValue "--context" f.message)

def originOf (value : String) : Except UsageError Origin :=
  match Origin.ofDocument (.text value) with
  | .ok o => .ok o
  | .error f => .error (.invalidValue "--origin" f.message)

/-- Checks one option of a scan. -/
def checkOption (w : Workspace) (a : Arguments) (name : String) : Except UsageError Unit := do
  match name with
  | "--rules" => discard <| (a.value? name).mapM (fileOf w name)
  | "--severity" => discard <| (a.value? name).mapM severityOf
  | "--min-confidence" => discard <| (a.value? name).mapM confidenceOf
  | "--context" => discard <| (a.valuesOf name).mapM contextOf
  | "--origin" => discard <| (a.valuesOf name).mapM originOf
  | "--workers" => discard <| (a.value? name).mapM workersOf
  | _ => return

/-- The file that the first plain argument names. -/
def fileArgument (w : Workspace) (parameter : String) (a : Arguments) : Except UsageError String :=
  match a.plain with
  | [] => .error (.missingArgument parameter)
  | path :: _ => fileOf w parameter path

/-- Refuses plain arguments beyond the first. -/
def refuseExtra (a : Arguments) : Except UsageError Unit :=
  match a.plain.drop 1 with
  | [] => .ok ()
  | extra => .error (.extraArguments extra)

def ScanOptions.ofArguments (w : Workspace) (a : Arguments) : Except UsageError ScanOptions := do
  a.order.forM (checkOption w a)
  let program ← fileArgument w "PROGRAM" a
  let some rules := a.value? "--rules" | .error (.missingOption "--rules")
  refuseExtra a
  return {
    program := program
    rules := rules
    output := a.value? "--output"
    json := a.has "--json"
    severity := ← (a.value? "--severity").mapM severityOf
    minConfidence := ← (a.value? "--min-confidence").mapM confidenceOf
    contexts := ← (a.valuesOf "--context").mapM contextOf
    origins := ← (a.valuesOf "--origin").mapM originOf
    workers := ← (a.value? "--workers").mapM workersOf }

def RulesOptions.ofArguments (w : Workspace) (a : Arguments) : Except UsageError RulesOptions := do
  let rules ← fileArgument w "RULES_PATH" a
  refuseExtra a
  return ⟨rules, a.has "--json"⟩

def commandNames : List String := ["rules", "scan"]

/-- The options of a command, or help on it. -/
def commandOf (w : Workspace) (name : String) (args : List String) :
    Except UsageError Command := do
  match name with
  | "scan" =>
    let a ← scanGrammar.parse args
    if a.has "--help" then return .help (some name)
    else return .scan (← ScanOptions.ofArguments w a)
  | "rules" =>
    let a ← rulesGrammar.parse args
    if a.has "--help" then return .help (some name)
    else return .rules (← RulesOptions.ofArguments w a)
  | other => .error (.noSuchCommand other (Text.proposals commandNames other))

/-- A command line that has been understood. -/
structure Request where
  command : Command
  verbose : Bool

/-- What the options of the program ask for themselves. Of the version and help, what is asked for
first wins. -/
def informationOf? (a : Arguments) : Option Command :=
  (a.order.find? (fun o => o == "--version" || o == "--help")).map (fun o =>
    if o == "--version" then .version else .help none)

/-- The command with a name. A name that is not known is read as an option of the program first. -/
def namedCommand (w : Workspace) (name : String) (args : List String) :
    Except UsageError Command := do
  if name ∉ commandNames then
    if let some information := informationOf? (← mainGrammar.parse (name :: args)) then
      return information
  commandOf w name args

/-- Reads the command line of the program. -/
def Request.parse (w : Workspace) (args : List String) : Except UsageError Request := do
  if args.isEmpty then return ⟨.nothing, false⟩
  let a ← mainGrammar.parse args
  let verbose := a.has "--verbose"
  match informationOf? a, a.plain with
  | some information, _ => return ⟨information, verbose⟩
  | none, [] => .error .missingCommand
  | none, name :: rest => return ⟨← namedCommand w name rest, verbose⟩

end TaintFlow.CommandLine
