import TaintFlow.Document.Text
import TaintFlow.Failure
import TaintFlow.Journal.Level
import TaintFlow.Text.Case

/-!
# The journal of a run

Notices from a threshold on are shown, either for people or as structured lines. If a file is named,
the structured lines of all notices from the debug level on go there as well. What is not chosen
explicitly is taken from the environment.
-/

namespace TaintFlow

/-- How the notices of a run are shown. -/
structure Journal where
  threshold : Level
  structured : Bool
  file : Option String
deriving DecidableEq, Repr

/-- A notice with what was attached to it. -/
structure Record where
  notice : Notice
  extra : List (String × Document)
  failure : Option Failure

namespace Record

def ofNotice (n : Notice) : Record := ⟨n, [], none⟩

/-- A record as a structured line. Attached values take precedence, except over the failure. -/
def toDocument (r : Record) (request : String) : Document :=
  let base : Table Document := .ofList [
    ("level", .ofNat r.notice.level.code),
    ("msg", .text r.notice.message),
    ("request_id", .text request)]
  let entry := r.extra.foldl (fun t (name, value) => t.set name value) base
  let entry := match r.failure with
    | some f => entry.set "err" (.object [("type", .text f.kind), ("message", .text f.message)])
    | none => entry
  .object entry.entries

/-- The level, padded to equal width, and the message. -/
def columns (r : Record) : String × String :=
  (Text.padRight 8 r.notice.level.name, r.notice.message)

/-- A record for people: its columns, and the failure on a line of its own. -/
def text (r : Record) : String :=
  let line := r.columns.1 ++ " | " ++ r.columns.2
  match r.failure with
  | some f => line ++ "\n" ++ f.kind ++ ": " ++ f.message
  | none => line

end Record

namespace Journal

def levelVariable : String := "SINKTRACE_LOG_LEVEL"

def structuredVariable : String := "SINKTRACE_LOG_JSON"

def fileVariable : String := "SINKTRACE_LOG_FILE"

def requestVariable : String := "SINKTRACE_REQUEST_ID"

/-- The journal with a threshold. What is not chosen is taken from the environment; an empty name
counts as none. -/
def ofEnv (threshold : Level) (structured : Option Bool) (file : Option String)
    (env : Table String) : Journal :=
  let file := if isNamed file then file else env.get? fileVariable
  ⟨threshold, structured.getD (env.get? structuredVariable == some "1"),
    if isNamed file then file else none⟩

/-- The journal that a run asks for. -/
def configure (level : Option String) (structured : Option Bool) (file : Option String)
    (env : Table String) : Result Journal :=
  let level := Text.upper
    (if isNamed level then level.getD "" else env.getD levelVariable "INFO")
  match Level.ofName? level with
  | none => .error (.invalid (.level level))
  | some threshold => .ok (ofEnv threshold structured file env)

/-- The records that are shown. -/
def shown (j : Journal) (records : List Record) : List Record :=
  records.filter (fun r => j.threshold.rank ≤ r.notice.level.rank)

/-- The lines that are shown for some records. -/
def lines (j : Journal) (request : String) (records : List Record) : List String :=
  (j.shown records).map (fun r =>
    if j.structured then (r.toDocument request).write .spaced else r.text)

/-- The records that are kept in the file. -/
def kept (records : List Record) : List Record :=
  records.filter (fun r => Level.debug.rank ≤ r.notice.level.rank)

end Journal

end TaintFlow
