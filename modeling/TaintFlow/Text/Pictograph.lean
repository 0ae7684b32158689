import TaintFlow.Text.Blank
import TaintFlow.Text.Case
import TaintFlow.Text.Parts
import TaintFlow.Text.PictographTable

/-!
# Pictographs by name

A name between colons stands for a pictograph. The name may end in a wish for how it is drawn: as a
picture or as plain text.
-/

namespace TaintFlow.Text

def pairUp : List String → List (String × String)
  | a :: b :: rest => (a, b) :: pairUp rest
  | _ => []

def pictographs : List (String × String) := pairUp (wordsOf pictographNames)

/-- How a pictograph is to be drawn, by the ending of its name, with the character that asks
for it. -/
def pictographEndings : List (String × Char) :=
  [("-emoji", Char.ofNat 0xfe0f), ("-text", Char.ofNat 0xfe0e)]

/-- The front of a name that ends in the given text. -/
def front? (ending name : List Char) : Option (List Char) :=
  (afterChars? ending.reverse name.reverse).map List.reverse

/-- Splits a name from the wish at its end. -/
def splitEnding (name : List Char) : List Char × List Char :=
  let found := pictographEndings.findSome? (fun (ending, mark) =>
    (front? ending.toList name).map (fun front => (front, [mark])))
  found.getD (name, [])

/-- The pictograph of a name. -/
def pictograph? (name : List Char) : Option (List Char) :=
  let (front, mark) := splitEnding name
  (pictographs.lookup (lower (String.ofList front))).map (fun p => p.toList ++ mark)

/-- The name between a colon that has been passed and the next one, with what follows. No blank may
stand in it. -/
def nameBeforeColon? : List Char → Option (List Char × List Char)
  | [] => none
  | c :: rest =>
    if c = ':' then some ([], rest)
    else if isBlank c then none
    else (nameBeforeColon? rest).map (fun (name, after) => (c :: name, after))

/-- Replaces the names between colons among the first `fuel` characters. A name that is not known
stays, and its second colon starts no other name. -/
def drawNames : Nat → List Char → List Char
  | 0, cs => cs
  | _, [] => []
  | fuel + 1, c :: rest =>
    if c = ':' then
      match nameBeforeColon? rest with
      | some (name, after) => (pictograph? name).getD (':' :: name ++ [':']) ++ drawNames fuel after
      | none => c :: drawNames fuel rest
    else c :: drawNames fuel rest

/-- Characters with pictographs in place of their names. -/
def drawPictographs (cs : List Char) : List Char := drawNames cs.length cs

end TaintFlow.Text
