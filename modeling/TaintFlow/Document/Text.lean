import TaintFlow.Document.Basic
import TaintFlow.Text.Points

/-!
# The text of a document

A document is written in ASCII: other characters are escaped by their sixteen-bit units. Fields
are written in increasing order of their names. The layout chooses the separators.
-/

namespace TaintFlow

namespace Document

/-- The sixteen-bit units of a code point. -/
def units (point : Nat) : List Nat :=
  if point < 0x10000 then [point]
  else [0xd800 + (point - 0x10000) / 0x400, 0xdc00 + (point - 0x10000) % 0x400]

/-- The notation of a unit in a written text. -/
def escapeUnit (unit : Nat) : List Char :=
  if unit = 34 then ['\\', '"']
  else if unit = 92 then ['\\', '\\']
  else if unit = 10 then ['\\', 'n']
  else if unit = 13 then ['\\', 'r']
  else if unit = 9 then ['\\', 't']
  else if unit = 8 then ['\\', 'b']
  else if unit = 12 then ['\\', 'f']
  else if 32 ≤ unit ∧ unit < 127 then [Char.ofNat unit]
  else '\\' :: 'u' :: Text.hexDigits 4 unit

def writeText (s : String) : String :=
  String.ofList ('"' :: ((Text.points s).flatMap units).flatMap escapeUnit ++ ['"'])

/-- Fields in increasing order of the code points of their names. -/
def sortFields {α : Type} (fields : List (String × α)) : List (String × α) :=
  fields.mergeSort (fun a b => (compare (Text.points a.1) (Text.points b.1)).isLE)

/-- What stands between the parts of a document. -/
structure Layout where
  item : String
  name : String

/-- No blanks at all: the text that is hashed. -/
def Layout.compact : Layout := ⟨",", ":"⟩

/-- A blank after each separator. -/
def Layout.spaced : Layout := ⟨", ", ": "⟩

mutual

/-- A document on one line. -/
def write (layout : Layout) : Document → String
  | .null => "null"
  | .bool value => if value then "true" else "false"
  | .whole value => toString value
  | .real value => RealFormat.document.write value
  | .text value => writeText value
  | .list items => "[" ++ Text.joinWith layout.item (writeItems layout items) ++ "]"
  | .object fields =>
    "\x7b" ++ Text.joinWith layout.item
      ((sortFields (writeFields layout fields)).map
        (fun (name, value) => writeText name ++ layout.name ++ value)) ++ "\x7d"

def writeItems (layout : Layout) : List Document → List String
  | [] => []
  | item :: rest => item.write layout :: writeItems layout rest

def writeFields (layout : Layout) : List (String × Document) → List (String × String)
  | [] => []
  | (name, value) :: rest => (name, value.write layout) :: writeFields layout rest

end

def newLine (depth : Nat) : String :=
  "\n" ++ String.ofList (List.replicate (2 * depth) ' ')

/-- Items on lines of their own, indented by two blanks a level. -/
def writeBlock (depth : Nat) (opening closing : String) (parts : List String) : String :=
  if parts.isEmpty then opening ++ closing
  else opening ++ newLine (depth + 1) ++ Text.joinWith ("," ++ newLine (depth + 1)) parts
    ++ newLine depth ++ closing

mutual

/-- A document with each item on a line of its own, for people to read. -/
def writeIndented (depth : Nat) : Document → String
  | .null => "null"
  | .bool value => if value then "true" else "false"
  | .whole value => toString value
  | .real value => RealFormat.document.write value
  | .text value => writeText value
  | .list items => writeBlock depth "[" "]" (indentedItems (depth + 1) items)
  | .object fields =>
    writeBlock depth "\x7b" "\x7d"
      ((sortFields (indentedFields (depth + 1) fields)).map
        (fun (name, value) => writeText name ++ ": " ++ value))

def indentedItems (depth : Nat) : List Document → List String
  | [] => []
  | item :: rest => item.writeIndented depth :: indentedItems depth rest

def indentedFields (depth : Nat) : List (String × Document) → List (String × String)
  | [] => []
  | (name, value) :: rest => (name, value.writeIndented depth) :: indentedFields depth rest

end

/-- The text that stands for a document when it is compared by its hash. -/
def canonical (d : Document) : String := d.write .compact

end Document

end TaintFlow
