/-!
# Parts of a text

Splitting a text at its first or last separator, removing a fixed beginning, and joining texts.
-/

namespace TaintFlow.Text

/-- What follows a fixed beginning, if the list has that beginning. -/
def afterChars? : List Char → List Char → Option (List Char)
  | [], cs => some cs
  | _ :: _, [] => none
  | b :: bs, c :: cs => if b = c then afterChars? bs cs else none

/-- What follows a fixed beginning of a text. -/
def after? (beginning s : String) : Option String :=
  (afterChars? beginning.toList s.toList).map String.ofList

/-- Splits a list at the last occurrence of a separator. -/
def splitLastChars? (separator : List Char) : List Char → Option (List Char × List Char)
  | [] => none
  | c :: rest =>
    match splitLastChars? separator rest with
    | some (front, back) => some (c :: front, back)
    | none => (afterChars? separator (c :: rest)).map (fun back => ([], back))

/-- Splits a list at the first occurrence of a separator. -/
def splitFirstChars? (separator : List Char) : List Char → Option (List Char × List Char)
  | [] => none
  | c :: rest =>
    match afterChars? separator (c :: rest) with
    | some back => some ([], back)
    | none => (splitFirstChars? separator rest).map (fun (front, back) => (c :: front, back))

def splitLast? (separator s : String) : Option (String × String) :=
  (splitLastChars? separator.toList s.toList).map
    (fun (front, back) => (String.ofList front, String.ofList back))

def splitFirst? (separator s : String) : Option (String × String) :=
  (splitFirstChars? separator.toList s.toList).map
    (fun (front, back) => (String.ofList front, String.ofList back))

/-- Whether a text occurs inside another one. -/
def occursIn (part s : String) : Bool :=
  (splitFirstChars? part.toList s.toList).isSome || part.isEmpty

def joinWith (separator : String) (parts : List String) : String :=
  String.intercalate separator parts

def replaceChar (old new : Char) (s : String) : String :=
  s.map (fun c => if c = old then new else c)

/-- The lines of a text, without their ends. -/
def linesOf (s : String) : List String :=
  (s.splitOn "\n")

/-- Whether a character ends a line. -/
def isLineBreak (c : Char) : Bool :=
  let n := c.toNat
  (10 ≤ n && n ≤ 13) || (28 ≤ n && n ≤ 30) || n == 0x85 || n == 0x2028 || n == 0x2029

/-- Splits a list of characters at each one that satisfies `p`. -/
def splitChars (p : Char → Bool) : List Char → List (List Char)
  | [] => [[]]
  | c :: rest =>
    match p c, splitChars p rest with
    | true, parts => [] :: parts
    | false, part :: parts => (c :: part) :: parts
    | false, [] => [[c]]

/-- The rows that a line takes when every line break starts a new one. -/
def rowsOf (s : String) : List String :=
  (splitChars isLineBreak s.toList).map String.ofList

def padRight (width : Nat) (s : String) : String :=
  s ++ String.ofList (List.replicate (width - s.length) ' ')

def padLeft (width : Nat) (s : String) : String :=
  String.ofList (List.replicate (width - s.length) ' ') ++ s

end TaintFlow.Text

namespace TaintFlow

/-- Whether an optional name is present and not empty. -/
def isNamed : Option String → Bool
  | some s => !s.isEmpty
  | none => false

end TaintFlow
