import TaintFlow.CommandLine.Options
import TaintFlow.Console.Report
import TaintFlow.Fidelity.Manifest
import TaintFlow.Journal
import TaintFlow.Program.Decode
import TaintFlow.Rules.Decode

/-!
# Running commands

A command reads the files and variables of its workspace and leaves a transcript: what it printed,
the files it wrote and what it had to tell. A command that fails keeps what it printed before and
adds an entry to the error log.
-/

namespace TaintFlow.CommandLine

structure Transcript where
  printed : List String
  written : Table String
  records : List Record

/-- A command that is running. -/
abbrev Run := ExceptT Failure (StateM Transcript)

namespace Run

def print (lines : List String) : Run Unit :=
  modify (fun t => { t with printed := t.printed ++ lines })

/-- Shows a report. What could not be shown is a failure of the command. -/
def display (d : Console.Display) : Run Unit := do
  print d.lines
  match d.fault with
  | none => pure ()
  | some (.badStyle f) => throw (.ofFault f)
  | some f => throw (.plain "MarkupError" f.message)

def tell (notices : List Notice) : Run Unit :=
  modify (fun t => { t with records := t.records ++ notices.map .ofNotice })

def write (path text : String) : Run Unit :=
  modify (fun t => { t with written := t.written.set path text })

def ofResult {α : Type} (r : Result α) : Run α :=
  match r with
  | .ok a => pure a
  | .error f => throw (.ofFault f)

end Run

/-- Where and for whom a command runs. -/
structure Session where
  workspace : Workspace
  /-- The id under which the run is known. -/
  request : String
  /-- Put before the entry in the error log. -/
  stamp : String

namespace Session

def text (s : Session) (path : String) : String := (s.workspace.text? path).getD ""

def isStrict (s : Session) : Bool :=
  Fidelity.isStrict (s.workspace.env.get? "SINKTRACE_FIDELITY_STRICT")

/-- The settings of the workspace with those of the command line in place. -/
def settings (s : Session) (o : ScanOptions) : Result (Settings × List Notice) := do
  let (settings, notices) ← Settings.load (s.workspace.text? Settings.filePath) s.workspace.env
  match o.workers with
  | some n => return (settings.set "limits" "workers" (.whole n), notices)
  | none => return (settings, notices)

/-- Where the report of a scan is kept. -/
def outputPath (o : ScanOptions) (settings : Settings) : String :=
  if isNamed o.output then o.output.getD ""
  else ((settings.get? "paths" "findings_json").getD (.text "")).asText

/-- The failure of a command that could not use a path. -/
def pathFailure (f : Workspace.PathFault) : Failure :=
  let (kind, text) := match f.cause with
    | .missing => ("FileNotFoundError", "[Errno 2] No such file or directory: ")
    | .notADirectory => ("NotADirectoryError", "[Errno 20] Not a directory: ")
    | .alreadyThere => ("FileExistsError", "[Errno 17] File exists: ")
    | .isADirectory => ("IsADirectoryError", "[Errno 21] Is a directory: ")
    | .nameTooLong => ("OSError", "[Errno 36] File name too long: ")
  .plain kind (text ++ Text.quoted f.path)

/-- Keeps the report of a scan. -/
def save (s : Session) (path : String) (r : ScanResult) : Run Unit := do
  if Workspace.isImpossible path then throw (.plain "ValueError" "embedded null byte")
  match s.workspace.target path with
  | .error f => throw (pathFailure f)
  | .ok file =>
    Run.write file (← Run.ofResult (r.savedText s.request))
    let _ ← Run.ofResult (Fidelity.enforce s.isStrict r.savedOutcome)

def loadRules (s : Session) (path : String) : Run Registry := do
  let loaded ← Run.ofResult (Registry.loadText (s.text path))
  Run.tell (loaded.notices path)
  return loaded.registry

def scan (s : Session) (o : ScanOptions) : Run Nat := do
  let (settings, notices) ← Run.ofResult (s.settings o)
  Run.tell notices
  let output := outputPath o settings
  let program ← Run.ofResult (Program.ofText o.program (s.text o.program))
  let rules ← s.loadRules o.rules
  if !o.json then Run.display (Console.conflictWarnings rules)
  let result ← Run.ofResult
    (Scan.run ⟨program, rules, s.isStrict⟩ settings.toDocument .unlimited ∅)
  Run.tell result.notices
  s.save output result
  let listed ← Run.ofResult
    (Finding.select ⟨o.severity, o.minConfidence.map .real⟩ o.contexts o.origins result.findings)
  if o.json then
    let fields ← Run.ofResult (result.reportOf listed)
    Run.print (Text.linesOf ((Document.object fields).writeIndented 0))
  else Run.display (Console.scanReport result listed output)
  return result.exitStatus.code

def rules (s : Session) (o : RulesOptions) : Run Nat := do
  let registry ← s.loadRules o.rules
  if o.json then Run.print (Text.linesOf (registry.statsDocument.writeIndented 0))
  else Run.display (Console.rulesReport registry)
  return 0

end Session

/-- How a command ended. -/
structure Outcome where
  exitCode : Nat
  stdout : List String
  stderr : String
  written : Table String
  records : List Record

def versionLine : String := "sinktrace, version 1.0.0"

def helpLines : Option String → List String
  | some "scan" =>
    ["Usage: sinktrace scan [OPTIONS] PROGRAM", "",
      "  Trace untrusted data to dangerous sinks and verify neutralization on every path.", "",
      "Options:",
      "  --rules FILE            Rule database  [required]",
      "  --output TEXT           Report path (default: .sinktrace/findings.json)",
      "  --json                  Print the JSON report instead of a table",
      "  --severity LEVEL        Hide findings below this severity",
      "  --min-confidence FLOAT  Hide findings scored below this feasibility",
      "  --context TEXT          Only findings whose sink context contains this layer (repeatable)",
      "  --origin TEXT           Only findings from this origin kind (repeatable)",
      "  --workers INTEGER       Summary worker threads",
      "  --help                  Show this message and exit."]
  | some "rules" =>
    ["Usage: sinktrace rules [OPTIONS] RULES_PATH", "",
      "  Load RULES_PATH, report rule counts and source/sanitizer conflicts.", "",
      "Options:",
      "  --json  Print rule statistics as JSON",
      "  --help  Show this message and exit."]
  | _ =>
    ["Usage: sinktrace [OPTIONS] COMMAND [ARGS]...", "",
      "  sinktrace - Source-to-sink taint analysis", "",
      "Options:",
      "  --version      Show the version and exit.",
      "  -h, --help     Show this message and exit.",
      "  -v, --verbose  Log debug output to stderr", "",
      "Commands:",
      "  rules  Load RULES_PATH, report rule counts and source/sanitizer conflicts.",
      "  scan   Trace untrusted data to dangerous sinks and verify neutralization."]

/-- An outcome without any effect. -/
def Outcome.quiet (exitCode : Nat) (stdout : List String) (stderr : String) : Outcome :=
  ⟨exitCode, stdout, stderr, ∅, []⟩

def errorText (message : String) : String := "Error: " ++ message

/-- Runs a command to its end. A failure is told, logged and explained, unless there is no place for
the log. -/
def Session.finish (s : Session) (name : String) (run : Run Nat) : Outcome :=
  match run.run.run ⟨[], ∅, []⟩ with
  | (.ok code, t) => ⟨code, t.printed, "", t.written, t.records⟩
  | (.error f, t) =>
    let records := t.records ++
      [⟨.error ("Command '" ++ name ++ "' failed: " ++ f.message), [], some f⟩]
    match s.workspace.target Failure.logPath with
    | .ok path =>
      let log := s.text Failure.logPath ++ f.logEntry s.stamp name s.request
      ⟨1, t.printed, (f.report.toOption.map errorText).getD "", t.written.set path log, records⟩
    | .error _ => ⟨1, t.printed, "", t.written, records⟩

/-- Adds the records of a run to the file of the journal, if the file can be written. -/
def Session.keepRecords (s : Session) (j : Journal) (o : Outcome) : Outcome :=
  match j.file with
  | none => o
  | some path =>
    let lines := (Journal.kept o.records).map (fun r =>
      (r.toDocument s.request).write .spaced ++ "\n")
    match s.workspace.find path with
    | .ok (.file parts) | .ok (.free parts) =>
      if lines.isEmpty then o
      else
        let text := s.text path ++ String.join lines
        { o with written := o.written.set (Workspace.nameOf parts) text }
    | _ => o

/-- Runs the command that a command line asks for. -/
def Session.execute (s : Session) (command : Command) : Outcome :=
  match command with
  | .version => .quiet 0 [versionLine] ""
  | .help name => .quiet 0 (helpLines name) ""
  | .nothing => .quiet 2 [] (Text.joinWith "\n" (helpLines none))
  | .scan options => s.finish "scan_command" (s.scan options)
  | .rules options => s.finish "rules_command" (s.rules options)

/-- Runs a command line. Only a verbose run keeps a journal, whose lines are shown before the error
text. -/
def Session.run (s : Session) (args : List String) : Outcome :=
  match Request.parse s.workspace args with
  | .error .impossiblePath => .quiet 1 [] ""
  | .error e => .quiet 2 [] (errorText e.message)
  | .ok request =>
    let outcome := s.execute request.command
    if request.verbose then
      let journal := Journal.ofEnv .debug none none s.workspace.env
      let lines := journal.lines s.request outcome.records
      let outcome := s.keepRecords journal outcome
      { outcome with stderr := Text.joinWith "\n" (lines ++ [outcome.stderr]) }
    else outcome

end TaintFlow.CommandLine
