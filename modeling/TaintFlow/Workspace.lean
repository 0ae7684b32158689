import TaintFlow.Collection.OrderedSet
import TaintFlow.Collection.Table
import TaintFlow.Text.Parts

/-!
# The workspace of a command

The files, directories and variables that a command can see. A path is walked part by part: every
part before the last has to be a directory, two dots step back to the directory above, and what lies
above the workspace is a directory of which nothing more is known. Files and directories are named by
normal paths, relative to the directory in which the command runs.
-/

namespace TaintFlow

structure Workspace where
  files : Table String
  directories : Names
  env : Table String

namespace Workspace

/-- Why a path cannot be used. -/
inductive Cause where
  | missing
  | notADirectory
  | alreadyThere
  | isADirectory
  | nameTooLong
deriving DecidableEq, Repr

structure PathFault where
  cause : Cause
  /-- The path as it is shown. -/
  path : String
deriving DecidableEq, Repr

/-- What a path leads to. -/
inductive Place where
  | directory (parts : List String)
  | file (parts : List String)
  /-- Nothing, in a directory that is there. -/
  | free (parts : List String)
deriving DecidableEq, Repr

/-- The directory above the topmost one that is named. -/
def above : String := ".."

/-- The first part of a path that does not start in the workspace. -/
def root : String := "/"

/-- The name of the parts of a path. -/
def nameOf : List String → String
  | [] => ""
  | part :: rest => if part = root then root ++ Text.joinWith "/" rest else Text.joinWith "/" (part :: rest)

def isAbsolute (path : String) : Bool := (Text.after? root path).isSome

/-- Where the walk along a path starts. -/
def startOf (path : String) : List String := if isAbsolute path then [root] else []

/-- The parts of a path as they are shown: without empty ones and single dots. -/
def partsOf (path : String) : List String :=
  startOf path ++ (path.splitOn "/").filter (fun part => part ≠ "" && part ≠ ".")

/-- A path as it is shown. -/
def shown (parts : List String) : String := if parts.isEmpty then "." else nameOf parts

/-- One step back. -/
def back (parts : List String) : List String :=
  match parts.getLast? with
  | none => [above]
  | some part =>
    if part = root then parts else if part = above then parts ++ [above] else parts.dropLast

/-- The parts of a path after all steps back. -/
def resolved (path : String) : List String :=
  ((partsOf path).drop (startOf path).length).foldl (fun parts part =>
    if part = above then back parts else parts ++ [part]) (startOf path)

/-- A path without empty parts and detours. -/
def normal (path : String) : String := nameOf (resolved path)

/-- Whether no file can have a path: it holds a character that ends names. -/
def isImpossible (path : String) : Bool := path.toList.contains (Char.ofNat 0)

/-- The directories through which a path leads. -/
def passed (path : String) : List String :=
  let parts := partsOf path
  (List.range parts.length).map (fun n => normal (nameOf (parts.take n)))

/-- Whether a normal path lies outside the workspace. -/
def isOutside (path : String) : Bool :=
  isAbsolute path || path = above || (Text.after? (above ++ "/") path).isSome

/-- A workspace with the given files and just the directories that they lie in. -/
def ofFiles (files : List (String × String)) (env : Table String) : Workspace :=
  let files := files.map (fun (path, text) => (normal path, text))
  ⟨.ofList files, .ofList ("" :: files.flatMap (fun (path, _) => passed path)), env⟩

def hasDirectory (w : Workspace) (parts : List String) : Bool :=
  parts.all (fun part => part = above || part = root) || decide (nameOf parts ∈ w.directories)

def hasFile (w : Workspace) (parts : List String) : Bool := w.files.contains (nameOf parts)

/-- The greatest number of bytes of a part. -/
def partLimit : Nat := 255

/-- The number of bytes from which on a path is too long. -/
def pathLimit : Nat := 4096

/-- What a part names in a directory. -/
def look (w : Workspace) (directory : List String) (part : String) : Except Cause Place :=
  if part = "" ∨ part = "." then .ok (.directory directory)
  else if part = above then .ok (.directory (back directory))
  else if part.utf8ByteSize > partLimit then .error .nameTooLong
  else
    let parts := directory ++ [part]
    if w.hasDirectory parts then .ok (.directory parts)
    else if w.hasFile parts then .ok (.file parts)
    else .ok (.free parts)

/-- Enters the directory that a part names. -/
def enter (w : Workspace) (directory : List String) (part : String) :
    Except Cause (List String) := do
  match ← w.look directory part with
  | .directory parts => return parts
  | .file _ => .error .notADirectory
  | .free _ => .error .missing

/-- What parts lead to from a directory. -/
def follow (w : Workspace) (directory parts : List String) : Except Cause Place := do
  match parts.getLast? with
  | none => return .directory directory
  | some part => w.look (← parts.dropLast.foldlM w.enter directory) part

/-- What a path leads to. -/
def find (w : Workspace) (path : String) : Except Cause Place :=
  if path.isEmpty then .error .missing
  else if path.utf8ByteSize ≥ pathLimit then .error .nameTooLong
  else w.follow (startOf path) (path.splitOn "/")

/-- The text of the file that a path leads to. -/
def text? (w : Workspace) (path : String) : Option String :=
  match w.find path with
  | .ok (.file parts) => w.files.get? (nameOf parts)
  | _ => none

def isDirectory (w : Workspace) (path : String) : Bool :=
  match w.find path with
  | .ok (.directory _) => true
  | _ => false

/-- Makes the directory that a path names, in one that is there. -/
def makeDirectory (w : Workspace) (path : String) : Except Cause Workspace := do
  match ← w.find path with
  | .directory _ | .file _ => .error .alreadyThere
  | .free parts => return { w with directories := w.directories.insert (nameOf parts) }

/-- Makes the directory that parts name, unless it is there already. -/
def ensureDirectory (w : Workspace) (parts : List String) : Except PathFault Workspace :=
  match w.makeDirectory (shown parts) with
  | .ok w => .ok w
  | .error cause =>
    if w.isDirectory (shown parts) then .ok w else .error ⟨cause, shown parts⟩

/-- Makes a directory with all those that it lies in; `depth` bounds how many are missing. -/
def ensureDirectories (w : Workspace) : Nat → List String → Except PathFault Workspace
  | 0, parts => w.ensureDirectory parts
  | depth + 1, parts =>
    match w.makeDirectory (shown parts) with
    | .error .missing => do (← w.ensureDirectories depth parts.dropLast).ensureDirectory parts
    | _ => w.ensureDirectory parts

/-- The normal path of the file that is written when a text is kept at a path. The directories that
the path leads through are made. -/
def target (w : Workspace) (path : String) : Except PathFault String := do
  let parts := partsOf path
  let w ← w.ensureDirectories parts.length parts.dropLast
  match w.find (shown parts) with
  | .ok (.file parts) | .ok (.free parts) => return nameOf parts
  | .ok (.directory _) => .error ⟨.isADirectory, shown parts⟩
  | .error cause => .error ⟨cause, shown parts⟩

end Workspace

end TaintFlow
