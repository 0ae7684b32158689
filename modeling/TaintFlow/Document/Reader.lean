import TaintFlow.Fault
import TaintFlow.Number.Read
import TaintFlow.Text.Points

/-!
# Reading a document

The usual notation of documents, with the names of the numbers that are not finite admitted. Of two
fields with one name the later value counts, in the place of the first. Every step consumes a
character, so the length of the text bounds the steps of the reader. Whole numbers with too many
digits and parts that are nested too deep are refused where the reader meets them.
-/

namespace TaintFlow

namespace Document.Reader

abbrev Chars := List Char

def isSpace (c : Char) : Bool := c = ' ' || c = '\t' || c = '\n' || c = '\r'

def skipSpace (cs : Chars) : Chars := cs.dropWhile isSpace

def hexValue? (c : Char) : Option Nat :=
  if '0' ≤ c ∧ c ≤ '9' then some (c.toNat - 48)
  else if 'a' ≤ c ∧ c ≤ 'f' then some (c.toNat - 87)
  else if 'A' ≤ c ∧ c ≤ 'F' then some (c.toNat - 55)
  else none

/-- Four digits in base sixteen. -/
def unit? : Chars → Option (Nat × Chars)
  | a :: b :: c :: d :: rest => do
    let a ← hexValue? a
    let b ← hexValue? b
    let c ← hexValue? c
    let d ← hexValue? d
    some (4096 * a + 256 * b + 16 * c + d, rest)
  | _ => none

/-- Why reading stops: something else is expected, with the number of characters that are left
there; or a fault of the value that was read. -/
inductive Stop where
  | expected (what : String) (left : Nat)
  | fault (cause : Fault)

abbrev Reading := Except Stop

/-- The code point of an escaped unit, which takes the unit after it when both form a pair. Another
unit of a pair stands alone. -/
def escapedUnit? (cs : Chars) : Option (Nat × Chars) := do
  let (first, rest) ← unit? cs
  if Text.isHigh first then
    match rest with
    | '\\' :: 'u' :: more =>
      match unit? more with
      | some (second, rest') =>
        if Text.isLow second then some (Text.pair first second, rest') else some (first, rest)
      | none => some (first, rest)
    | _ => some (first, rest)
  else some (first, rest)

/-- The code point of an escape after its backslash. -/
def escaped : Chars → Reading (Nat × Chars)
  | '"' :: rest => .ok (34, rest)
  | '\\' :: rest => .ok (92, rest)
  | '/' :: rest => .ok (47, rest)
  | 'b' :: rest => .ok (8, rest)
  | 'f' :: rest => .ok (12, rest)
  | 'n' :: rest => .ok (10, rest)
  | 'r' :: rest => .ok (13, rest)
  | 't' :: rest => .ok (9, rest)
  | 'u' :: rest =>
    match escapedUnit? rest with
    | some (_, []) | none => .error (.expected "Invalid \\uXXXX escape" (rest.length + 1))
    | some found => .ok found
  | rest => .error (.expected "Invalid \\escape" (rest.length + 1))

/-- The rest of a text after its opening quote; `opened` is all that follows the quote, and `back`
holds the code points read, last first. -/
def stringBody (opened : Chars) : Nat → List Nat → Chars → Reading (String × Chars)
  | 0, _, _ => .error (.expected "Unterminated string starting at" (opened.length + 1))
  | fuel + 1, back, cs =>
    match cs with
    | [] | ['\\'] => .error (.expected "Unterminated string starting at" (opened.length + 1))
    | '"' :: rest => .ok (Text.ofPoints back.reverse, rest)
    | '\\' :: rest => do
      let (point, rest) ← escaped rest
      stringBody opened fuel (point :: back) rest
    | c :: rest =>
      if c.toNat < 32 then .error (.expected "Invalid control character at" cs.length)
      else stringBody opened fuel (c.toNat :: back) rest

/-- A whole part: a zero alone or digits that start with another digit. -/
def wholePart? : Chars → Option (Chars × Chars)
  | '0' :: rest => some (['0'], rest)
  | cs =>
    let digits := cs.takeWhile Char.isDigit
    if digits.isEmpty then none else some (digits, cs.dropWhile Char.isDigit)

/-- The fraction after a whole part, without its point; absent when no digit follows. -/
def fractionPart (cs : Chars) : Option Chars × Chars :=
  match cs with
  | '.' :: more =>
    let digits := more.takeWhile Char.isDigit
    if digits.isEmpty then (none, cs) else (some digits, more.dropWhile Char.isDigit)
  | _ => (none, cs)

/-- The exponent of a number; absent when no digit follows the mark. -/
def exponentPart (cs : Chars) : Option Int × Chars :=
  match cs with
  | c :: more =>
    if c = 'e' || c = 'E' then
      let (negative, rest) := takeSign more
      let digits := rest.takeWhile Char.isDigit
      if digits.isEmpty then (none, cs)
      else (some (signedWhole negative (valueOfDigits digits)), rest.dropWhile Char.isDigit)
    else (none, cs)
  | [] => (none, cs)

def infinity (negative : Bool) : Document := .real (realOfDecimal negative 1 400)

/-- A number at the front of a text, with the rest of the text. -/
def number (cs : Chars) : Reading (Document × Chars) :=
  let (negative, body) := match cs with
    | '-' :: rest => (true, rest)
    | _ => (false, cs)
  match Text.afterChars? "Infinity".toList body, wholePart? body with
  | some rest, _ => .ok (infinity negative, rest)
  | none, none => .error (.expected "Expecting value" cs.length)
  | none, some (digits, rest) =>
    let (fraction, rest) := fractionPart rest
    let (exponent, rest) := exponentPart rest
    match fraction, exponent with
    | none, none =>
      if digits.length > digitLimit then .error (.fault (.invalid (.tooManyDigits digits.length)))
      else .ok (.whole (signedWhole negative (valueOfDigits digits)), rest)
    | _, _ =>
      let places := fraction.getD []
      .ok (.real (realOfDecimal negative (valueOfDigits (digits ++ places))
        (exponent.getD 0 - (places.length : Int))), rest)

/-- The words that stand for a document, with what they stand for. -/
def words : List (Chars × Document) :=
  [("null".toList, .null), ("true".toList, .bool true), ("false".toList, .bool false),
    ("NaN".toList, ((realOfText? "nan").map .real).getD .null)]

/-- A word or a number at the front of a text. -/
def word (cs : Chars) : Reading (Document × Chars) :=
  match words.findSome? (fun (w, d) => (Text.afterChars? w cs).map (fun rest => (d, rest))) with
  | some found => .ok found
  | none => number cs

/-- A text whose opening quote was read, in at most `fuel` steps. -/
def quoted (fuel : Nat) (cs : Chars) : Reading (String × Chars) :=
  stringBody cs fuel [] cs

/-- How deep lists and objects may be nested. -/
def depthLimit : Nat := 985

mutual

/-- A document at the front of a text, with the rest of the text. Lists and objects in it may be
nested to the given depth. -/
def value : Nat → Nat → Chars → Reading (Document × Chars)
  | 0, _, cs => .error (.expected "Expecting value" cs.length)
  | fuel + 1, depth, cs =>
    match cs, depth with
    | [], _ => .error (.expected "Expecting value" 0)
    | '"' :: rest, _ => do
      let (s, rest) ← quoted fuel rest
      return (.text s, rest)
    | '[' :: _, 0 => .error (.fault (.tooDeep "array"))
    | '\x7b' :: _, 0 => .error (.fault (.tooDeep "object"))
    | '[' :: rest, depth + 1 =>
      match skipSpace rest with
      | ']' :: rest => .ok (.list [], rest)
      | rest => do
        let (found, rest) ← items fuel depth rest
        return (.list found, rest)
    | '\x7b' :: rest, depth + 1 =>
      match skipSpace rest with
      | '\x7d' :: rest => .ok (.object [], rest)
      | rest => do
        let (found, rest) ← fields fuel depth ∅ rest
        return (.object found.entries, rest)
    | cs, _ => word cs

/-- The items of a list up to its end. -/
def items : Nat → Nat → Chars → Reading (List Document × Chars)
  | 0, _, cs => .error (.expected "Expecting value" cs.length)
  | fuel + 1, depth, cs => do
    let (item, rest) ← value fuel depth cs
    match skipSpace rest with
    | ']' :: rest => return ([item], rest)
    | ',' :: rest => do
      let (found, rest) ← items fuel depth (skipSpace rest)
      return (item :: found, rest)
    | rest => .error (.expected "Expecting ',' delimiter" rest.length)

/-- The fields of an object up to its end, added to those read before. -/
def fields : Nat → Nat → Table Document → Chars → Reading (Table Document × Chars)
  | 0, _, _, cs => .error (.expected "Expecting value" cs.length)
  | fuel + 1, depth, before, cs =>
    match cs with
    | '"' :: rest => do
      let (name, rest) ← quoted fuel rest
      match skipSpace rest with
      | ':' :: rest => do
        let (found, rest) ← value fuel depth (skipSpace rest)
        let all := before.set name found
        match skipSpace rest with
        | '\x7d' :: rest => return (all, rest)
        | ',' :: rest => fields fuel depth all (skipSpace rest)
        | rest => .error (.expected "Expecting ',' delimiter" rest.length)
      | rest => .error (.expected "Expecting ':' delimiter" rest.length)
    | rest =>
      .error (.expected "Expecting property name enclosed in double quotes" rest.length)

end

/-- A mark of the byte order in front of a text. -/
def byteOrderMark : Char := Char.ofNat 0xfeff

/-- A document and nothing after it. -/
def whole (cs : Chars) : Reading Document := do
  if cs.head? = some byteOrderMark then
    .error (.expected "Unexpected UTF-8 BOM (decode using utf-8-sig)" cs.length)
  let (d, rest) ← value (cs.length + 1) depthLimit (skipSpace cs)
  let rest := skipSpace rest
  if rest.isEmpty then return d else .error (.expected "Extra data" rest.length)

/-- A position in a text, for a message. -/
def placeIn (cs : Chars) (position : Nat) : String :=
  let before := cs.take position
  let column := (before.reverse.takeWhile (· ≠ '\n')).length + 1
  "line " ++ toString (before.count '\n' + 1) ++ " column " ++ toString column
    ++ " (char " ++ toString position ++ ")"

end Document.Reader

/-- The document that a text denotes. -/
def Document.read (s : String) : Result Document :=
  let cs := s.toList
  match Reader.whole cs with
  | .ok d => .ok d
  | .error (.fault f) => .error f
  | .error (.expected what left) =>
    .error (.unreadable (what ++ ": " ++ Reader.placeIn cs (cs.length - left)))

/-- The document that a text denotes, if it denotes one. -/
def Document.read? (s : String) : Option Document := (read s).toOption

end TaintFlow
