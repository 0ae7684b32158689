import TaintFlow.Document.Coerce
import TaintFlow.Document.Reader
import TaintFlow.Program.Basic

/-!
# Programs from documents

A function whose document breaks the rules becomes a malformed function of the program and the
others are still read. Documents of the wrong shape altogether stop the reading.
-/

namespace TaintFlow

namespace Decode

/-- A list of texts; anything with members can stand for it. -/
def texts (field : Option Document) : Result (List String) := do
  return (← Document.membersOf field).map Document.asText

/-- The fields of an optional object; a value that counts as absent has none. -/
def optionalFields (field : Option Document) : Result (List (String × Document)) :=
  match field with
  | some value => if value.isTruthy then value.fieldsOf else .ok []
  | none => .ok []

def flag (field : Option Document) : Bool :=
  match field with
  | some value => value.isTruthy
  | none => false

/-- The value of an optional field that counts as present. -/
def present? (field : Option Document) : Option Document :=
  field.filter Document.isTruthy

def embeds (field : Option Document) : Result (NameMap (List Context)) := do
  (← optionalFields field).foldlM (fun found (slot, contexts) => do
    return found.set slot (← Context.ofDocuments contexts.asList)) ∅

def enclosing (field : Option Document) : Result (OrderedMap Int (List Context)) := do
  (← optionalFields field).foldlM (fun found (index, contexts) => do
    let index ← (Document.text index).toWhole
    return found.set index (← Context.ofDocuments contexts.asList)) ∅

/-- Turns a value outside its domain into a defect of the function; other faults pass. -/
def orMalformed {α : Type} (function : String) (cause : Invalid → Malformed.Cause)
    (r : Result α) : Result α :=
  match r with
  | .error (.invalid why) => .error (.malformed ⟨function, cause why⟩)
  | other => other

/-- The kind of a node; a node without one has no effect. -/
def kind? (field : Option Document) : Option NodeKind :=
  match field with
  | none => some .nop
  | some (.text s) => NodeKind.all.find? (fun k => k.name == s)
  | some _ => none

/-- A node with its id. -/
def node (function : String) (d : Document) : Result (String × Node) := do
  let fields ← match d with
    | .object fields => .ok fields
    | _ => .error .wrongKind
  let get (name : String) : Option Document := fields.lookup name
  let some shownId := get "id" | .error (.malformed ⟨function, .nodeWithoutId d.shown⟩)
  let id := shownId.asText
  let some kind := kind? (get "kind")
    | .error (.malformed ⟨function,
        .unknownKind shownId.shown ((get "kind").getD .null).shown⟩)
  let badPlacement (why : Invalid) : Malformed.Cause := .badPlacement id why.message
  let embeds ← orMalformed function badPlacement (embeds (get "embeds"))
  let enclosing ← orMalformed function badPlacement (enclosing (get "enclosing"))
  let succ ← texts (get "succ")
  let target := (get "target").getD .null
  let operands ← texts (get "operands")
  let operator := (get "operator").getD (.text "")
  let api := (get "api").getD .null
  let callee := (get "callee").getD .null
  let args := (← Document.membersOf (get "args")).map
    (fun arg => if arg.isNull then none else some arg.asText)
  let receiver := (get "receiver").getD .null
  let line ← match get "line" with
    | some value => value.toWhole
    | none => .ok 0
  let file := (get "file").getD (.text "")
  let dynamic := flag (get "dynamic")
  return (id, ⟨kind, succ, target, operands, embeds, operator, api, callee, dynamic, args,
    receiver, enclosing, line, file⟩)

/-- A parameter: its name alone, or an object. -/
def param (d : Document) : Result Param := do
  match d with
  | .text name => return ⟨name, none, false, none⟩
  | .object fields =>
    let some name := fields.lookup "name" | .error (.missing "name")
    let origin ← (present? (fields.lookup "origin")).mapM Origin.ofDocument
    let context ← (present? (fields.lookup "context")).mapM Context.ofDocument
    return ⟨name.asText, origin, flag (fields.lookup "out"), context⟩
  | _ => .error .notAnObject

/-- The parameters of a function; a bad one makes the function malformed. -/
def params (function : String) (field : Option Document) : Result (List Param) := do
  let declared ← Document.membersOf field
  match declared.mapM param with
  | .error (.invalid why) => .error (.malformed ⟨function, .badParameter why.message⟩)
  | .error (.missing name) => .error (.malformed ⟨function, .badParameter (Text.quoted name)⟩)
  | other => other

/-- The nodes of a function in the order of the document. -/
def nodes (function : String) (field : Option Document) : Result (Table Node) := do
  (← Document.membersOf field).foldlM (fun found d => do
    let (id, node) ← node function d
    if found.contains id then .error (.malformed ⟨function, .duplicateNode id⟩)
    else return found.set id node) ∅

end Decode

namespace Function

def ofDocument (d : Document) : Result Function := do
  let id := ((← d.get? "id").getD (.text "")).asText
  if id.isEmpty then .error (.malformed ⟨Malformed.anonymous, .functionWithoutId⟩)
  else
    let nodes ← Decode.nodes id (← d.get? "nodes")
    let entry := match (← d.get? "entry").filter (fun e => !e.isNull) with
      | some value => value.asText
      | none => nodes.keys.headD ""
    let params ← Decode.params id (← d.get? "params")
    let receiver := (← d.get? "receiver").getD .null
    let entryPoint := Decode.flag (← d.get? "entry_point")
    let file := (← d.get? "file").getD (.text "")
    return ⟨id, nodes, entry, params, receiver, entryPoint, file⟩

end Function

namespace Program

def empty : Program := ⟨∅, ∅, ∅⟩

/-- Adds a function. A second function with the id of a usable one makes the id malformed. -/
def addFunction (p : Program) (f : Function) : Program :=
  if p.functions.contains f.id then
    { p with
      functions := p.functions.erase f.id
      malformed := p.malformed.set f.id ⟨f.id, .duplicateFunction⟩ }
  else { p with functions := p.functions.set f.id f }

/-- Adds what a function's document was read as. -/
def addRead (p : Program) (r : Result Function) : Result Program :=
  match r with
  | .ok f => .ok (p.addFunction f)
  | .error (.malformed what) => .ok { p with malformed := p.malformed.set what.function what }
  | .error fault => .error fault

def ofDocument (d : Document) : Result Program := do
  let globals ← Decode.texts (← d.get? "globals")
  let functions ← Document.membersOf (← d.get? "functions")
  functions.foldlM (fun p f => p.addRead (Function.ofDocument f))
    { empty with globals := .ofList globals }

/-- A program from the text of a file. -/
def ofText (path text : String) : Result Program := do
  let d ← Document.read text
  if d.isObject then ofDocument d else .error (.invalid (.programShape path))

end Program

end TaintFlow
