import TaintFlow.Document.Coerce
import TaintFlow.Document.Reader
import TaintFlow.Journal.Level
import TaintFlow.Text.Case

/-!
# Settings

Every setting has a section, a name and a built-in value. A document can replace values by others
of the same kind, and the environment overrides both. What does not fit is left out with a notice,
so the sections and names are always the built-in ones.
-/

namespace TaintFlow

structure Settings where
  sections : Table (Table Document)

namespace Settings

def defaultPaths : Table Document :=
  .ofList [("findings_json", .text "./.sinktrace/findings.json")]

def defaultLimits : Table Document :=
  .ofList [
    ("max_visits_per_node", .whole 200),
    ("max_scc_iterations", .whole 20),
    ("max_worklist_rounds", .whole 50),
    ("max_path_depth", .whole 40),
    ("max_paths_per_sink", .whole 100),
    ("max_path_states", .whole 20000),
    ("path_length_ceiling", .whole 16),
    ("merge_count_ceiling", .whole 4),
    ("workers", .whole 4)]

def defaultScoring : Table Document :=
  .ofList [
    ("unknown_penalty", .real 0.6),
    ("min_unknown_factor", .real 0.1),
    ("long_path_penalty", .real 0.9),
    ("corroboration_bonus", .real 0.05),
    ("max_corroboration_bonus", .real 0.15)]

def default : Settings :=
  ⟨.ofList [("paths", defaultPaths), ("limits", defaultLimits), ("scoring", defaultScoring)]⟩

def get? (s : Settings) (group name : String) : Option Document :=
  (s.sections.get? group).bind (fun values => values.get? name)

def set (s : Settings) (group name : String) (value : Document) : Settings :=
  ⟨s.sections.set group ((s.sections.getD group ∅).set name value)⟩

def toDocument (s : Settings) : Document :=
  .ofTable (.ofTable id) s.sections

/-- Whether a value can replace another one. A whole number can stand for a real one; a truth value
stands only for a truth value. -/
def accepts (current value : Document) : Bool :=
  match current, value with
  | .bool _, .bool _ => true
  | .whole _, .whole _ => true
  | .real _, .whole _ => true
  | .real _, .real _ => true
  | .text _, .text _ => true
  | _, _ => false

/-- Replaces one value. -/
def mergeValue (group : String) (step : Settings × List Notice) (field : String × Document) :
    Settings × List Notice :=
  let (s, notices) := step
  let (name, value) := field
  match s.get? group name with
  | none => (s, notices ++ [.warning ("Ignoring unknown config key '" ++ group ++ "." ++ name ++ "'")])
  | some current =>
    if accepts current value then (s.set group name value, notices)
    else (s, notices ++ [.warning ("Ignoring config value for '" ++ group ++ "." ++ name
      ++ "': expected " ++ current.kindName ++ ", got " ++ value.kindName)])

/-- Replaces the values of one section. -/
def mergeSection (step : Settings × List Notice) (field : String × Document) :
    Settings × List Notice :=
  let (s, notices) := step
  match s.sections.contains field.1, field.2 with
  | true, .object values => values.foldl (mergeValue field.1) step
  | _, _ => (s, notices ++ [.warning ("Ignoring unknown config section '" ++ field.1 ++ "'")])

def mergeFields (fields : List (String × Document)) : Settings × List Notice :=
  fields.foldl mergeSection (default, [])

/-- The built-in settings with those of a document in place; an empty document changes nothing. -/
def merge (overrides : Document) : Result (Settings × List Notice) :=
  if overrides.isTruthy then do return mergeFields (← overrides.fieldsOf)
  else .ok (default, [])

/-- The variable that overrides a setting. -/
def variableOf (group name : String) : String :=
  "SINKTRACE_" ++ Text.upper group ++ "_" ++ Text.upper name

/-- A text as a value of the kind of the current one. -/
def readAs (current : Document) (text : String) : Except Invalid Document :=
  match current with
  | .whole _ =>
    match wholeOfText text with
    | .ok n => .ok (.whole n)
    | .error .shape => .error (.whole (Text.quoted text))
    | .error (.tooLong digits) => .error (.tooManyDigits digits)
  | .real _ =>
    match realOfText? text with
    | some x => .ok (.real x)
    | none => .error (.real (Text.quoted text))
  | .bool _ => .ok (.bool (Text.lower (Text.trim text) ∈ ["1", "true", "yes"]))
  | _ => .ok (.text text)

/-- Overrides one setting from the environment. -/
def overrideOne (env : Table String) (group : String) (step : Settings × List Notice)
    (field : String × Document) : Settings × List Notice :=
  let (s, notices) := step
  let (name, current) := field
  match env.get? (variableOf group name) with
  | none => step
  | some text =>
    match readAs current text with
    | .ok value => (s.set group name value, notices)
    | .error cause =>
      (s, notices ++ [
        .warning ("Invalid value for environment variable " ++ variableOf group name ++ ": '" ++ text
          ++ "' - " ++ cause.message),
        .info ("Using default value: " ++ current.asText)])

/-- Overrides settings from the environment. -/
def override (env : Table String) (start : Settings × List Notice) : Settings × List Notice :=
  start.1.sections.entries.foldl (fun step (group, values) =>
    values.entries.foldl (overrideOne env group) step) start

def filePath : String := ".sinktrace/config.json"

/-- The fields of a settings file, with what is to be told about it. A text that is no document is
passed over. -/
def readFile (file : Option String) : Result (List (String × Document) × List Notice) :=
  match file with
  | none => .ok ([], [])
  | some text =>
    match Document.read text with
    | .ok (.object fields) => .ok (fields, [])
    | .ok _ =>
      .ok ([], [.warning ("Config file " ++ filePath ++ " is not a JSON object, ignoring it")])
    | .error (.unreadable _) =>
      .ok ([], [.warning ("Could not load config file from " ++ filePath),
        .info "Continuing with default configuration"])
    | .error fault => .error fault

/-- The settings of a run, from the text of the settings file and the environment. -/
def load (file : Option String) (env : Table String) : Result (Settings × List Notice) := do
  let (fields, notices) ← readFile file
  let (settings, merging) := mergeFields fields
  return override env (settings, notices ++ merging)

end Settings

end TaintFlow
