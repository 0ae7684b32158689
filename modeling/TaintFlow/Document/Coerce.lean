import TaintFlow.Fault
import TaintFlow.Number.Read

/-!
# Reading values out of documents

Fields are read leniently: numbers may be given as texts, whole numbers as real ones, and anything
that has members can stand for the list of them. What cannot be read so is a fault.
-/

namespace TaintFlow.Document

/-- The whole number that a text denotes. -/
def wholeIn (s : String) : Result Int :=
  match wholeOfText s with
  | .ok n => .ok n
  | .error .shape => .error (.invalid (.whole (Text.quoted s)))
  | .error (.tooLong digits) => .error (.invalid (.tooManyDigits digits))

/-- A number that was computed and is about to be shown. One with too many digits cannot be. -/
def showable (d : Document) : Result Document :=
  match d with
  | .whole n =>
    if n.natAbs < Nat.pow 10 digitLimit then .ok d else .error (.invalid .unshowable)
  | _ => .ok d

/-- A document as a whole number; a real number loses its fraction. -/
def toWhole : Document → Result Int
  | .whole value => .ok value
  | .bool value => .ok (if value then 1 else 0)
  | .real value =>
    match Binary.ofFloat value with
    | .nan => .error (.invalid .wholeOfNan)
    | .infinite _ => .error (.overflow .infiniteAsWhole)
    | .finite negative m q => .ok (Binary.truncate negative m q)
  | .text value => wholeIn value
  | _ => .error .wrongKind

/-- The least whole number that no real one is nearest to: half a step above the greatest of them. -/
@[irreducible] def realLimit : Nat := Nat.pow 2 1024 - Nat.pow 2 970

/-- A whole number as the nearest real one. -/
def realOfWhole (n : Int) : Result Float :=
  if n.natAbs < realLimit then .ok (realOfDecimal (n < 0) n.natAbs 0)
  else .error (.overflow .wholeAsReal)

def toReal : Document → Result Float
  | .whole value => realOfWhole value
  | .bool value => .ok (if value then Float.ofScientific 1 false 0 else Float.ofScientific 0 false 0)
  | .real value => .ok value
  | .text value =>
    match realOfText? value with
    | some x => .ok x
    | none => .error (.invalid (.real (Text.quoted value)))
  | _ => .error .wrongKind

/-- The members of a document: the characters of a text, the items of a list, the names of an
object's fields. -/
def members : Document → Result (List Document)
  | .text value => .ok ((Text.points value).map (fun point => .text (Text.ofPoints [point])))
  | .list items => .ok items
  | .object fields => .ok (fields.map (fun field => .text field.1))
  | _ => .error .wrongKind

/-- The members of an optional field, none when it is absent. -/
def membersOf (field : Option Document) : Result (List Document) :=
  match field with
  | some value => value.members
  | none => .ok []

/-- A document as a list: a list as it is, anything else as its only item. -/
def asList : Document → List Document
  | .list items => items
  | other => [other]

/-- A field of an object that may be absent. -/
def get? (d : Document) (name : String) : Result (Option Document) :=
  match d with
  | .object fields => .ok (fields.lookup name)
  | _ => .error .notAnObject

/-- The fields of an object. -/
def fieldsOf (d : Document) : Result (List (String × Document)) :=
  match d with
  | .object fields => .ok fields
  | _ => .error .notAnObject

def isNull : Document → Bool
  | .null => true
  | _ => false

/-- A field that counts only if it is there and not null. -/
def given? (d : Document) (name : String) : Option Document :=
  (d.field? name).filter (fun value => !value.isNull)

/-- The members of a field of an object, none when it is absent. -/
def itemsOf (d : Document) (name : String) : Result (List Document) := do
  membersOf (← d.get? name)

/-- The fields of a field of an object, none when it is absent. -/
def fieldsAt (d : Document) (name : String) : Result (List (String × Document)) := do
  fieldsOf ((← d.get? name).getD (.object []))

/-- The fields of a field, none when it is absent or null. -/
def fieldsIn (d : Document) (name : String) : Result (List (String × Document)) :=
  match d.given? name with
  | some value => value.fieldsOf
  | none => .ok []

/-- A field that has to be there. -/
def need (d : Document) (name : String) : Result Document :=
  match d with
  | .object fields =>
    match fields.lookup name with
    | some value => .ok value
    | none => .error (.missing name)
  | _ => .error .wrongKind

end TaintFlow.Document
