import TaintFlow.CommandLine

/-!
# The program

Reads the files that a command line names and the variables of the environment, runs the command,
and carries out what it leaves: printed lines, written files and the exit code.
-/

namespace TaintFlow.Main

open CommandLine

/-- The variables that a run looks at. -/
def watchedNames : List String :=
  (Settings.default.sections.entries.flatMap (fun (group, values) =>
    values.keys.map (Settings.variableOf group)))
  ++ [Journal.levelVariable, Journal.structuredVariable, Journal.fileVariable,
    Journal.requestVariable, "SINKTRACE_FIDELITY_STRICT"]

def readEnv : IO (Table String) :=
  watchedNames.foldlM (fun env name => do
    match ← IO.getEnv name with
    | some value => return env.set name value
    | none => return env) ∅

def readFile? (path : String) : IO (Option String) := do
  try return some (← IO.FS.readFile path) catch _ => return none

/-- Whether a path names a directory: it is there and cannot be read as a file. -/
def isDirectory (path : String) : IO Bool := do
  try
    let _ ← IO.FS.readFile path
    return false
  catch
    | .inappropriateType .. => return true
    | _ => return false

/-- The paths that a command line can name, the values of options included. -/
def candidates (args : List String) (env : Table String) : List String :=
  let values := args.filterMap (fun arg => (Text.splitFirst? "=" arg).map Prod.snd)
  args ++ values ++ [Settings.filePath, Failure.logPath] ++ (env.get? Journal.fileVariable).toList

def readWorkspace (args : List String) : IO Workspace := do
  let env ← readEnv
  let paths := (candidates args env).filter (fun path => !path.isEmpty)
  let files ← paths.foldlM (fun files path => do
    match ← readFile? path with
    | some text => return files.set (Workspace.normal path) text
    | none => return files) ∅
  let directories ← (paths ++ paths.flatMap Workspace.passed).filterM (fun path =>
    if path.isEmpty then return true else isDirectory path)
  return ⟨files, .ofList (directories.map Workspace.normal), env⟩

def writeFile (path text : String) : IO Unit := do
  match (Workspace.passed path).getLast? with
  | some parent => if !parent.isEmpty then IO.FS.createDirAll parent
  | none => return
  IO.FS.writeFile path text

/-- Eight digits that tell runs apart. -/
def newRequest : IO String := do
  let n ← IO.rand 0 0xffffffff
  return String.ofList (Text.hexDigits 8 n)

end TaintFlow.Main

open TaintFlow TaintFlow.Main in
def main (args : List String) : IO UInt32 := do
  let workspace ← readWorkspace args
  let request ← match workspace.env.get? Journal.requestVariable with
    | some name => if name.isEmpty then newRequest else pure name
    | none => newRequest
  let outcome := (CommandLine.Session.mk workspace request "").run args
  outcome.written.entries.forM (fun (path, text) => writeFile path text)
  outcome.stdout.forM (fun line => IO.println line)
  if !outcome.stderr.isEmpty then IO.eprintln outcome.stderr
  return outcome.exitCode.toUInt32
