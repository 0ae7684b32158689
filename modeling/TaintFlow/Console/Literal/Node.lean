import TaintFlow.Console.Literal.Token

/-!
# What a literal is made of

The parts of an expression, as far as a literal and the complaints about it need them.
-/

namespace TaintFlow.Console.Literal

inductive Node where
  | number (imaginary : Bool)
  | text
  | bytes
  /-- A text with places that are filled in. -/
  | formatted
  /-- A word that stands for a value. -/
  | constant (word : String)
  | ellipsis
  | name (s : String)
  | tuple (items : List Node)
  | set (items : List Node)
  /-- Keys and values in turn. -/
  | dict (parts : List Node)
  /-- The missing key of entries that are taken from elsewhere. -/
  | absent
  | signed (operand : Node)
  /-- A sum or difference of two operands. -/
  | sum (left right : Node)
  | operation
  | comparison
  | conditional
  | assignment
  /-- A member of a value, named after a point. -/
  | member
  /-- A call; `isEmpty` says that there is no argument. -/
  | call (isEmpty : Bool)
  | starred
  /-- An argument with a name, or arguments with names taken from elsewhere. -/
  | keyword (isNamed : Bool)

namespace Node

/-- How complaints call a part of an expression. -/
def described : Node → String
  | number _ | text | bytes => "literal"
  | formatted => "f-string expression"
  | constant word => word
  | ellipsis => "ellipsis"
  | name _ => "name"
  | tuple _ => "tuple"
  | set _ => "set display"
  | dict _ => "dict literal"
  | absent | signed _ | sum _ _ | operation | keyword _ => "expression"
  | comparison => "comparison"
  | conditional => "conditional expression"
  | assignment => "named expression"
  | member => "attribute"
  | call _ => "function call"
  | starred => "starred"

def isNumber : Node → Bool
  | number _ => true
  | _ => false

/-- Names of old statements that are written like a name before a value. -/
def isLegacy : Node → Bool
  | name s => s = "print" || s = "exec"
  | _ => false

end Node

/-! ## Texts -/

namespace Quotation

def isHex (c : Char) : Bool := c.isDigit || c.toLower ∈ "abcdef".toList

def hexValue (cs : List Char) : Nat :=
  cs.foldl (fun n c => 16 * n + (if c.isDigit then c.toNat - 48 else c.toLower.toNat - 87)) 0

/-- How many digits follow the letter of an escape. -/
def escapeWidth? : Char → Option Nat
  | 'x' => some 2
  | 'u' => some 4
  | 'U' => some 8
  | _ => none

/-- The complaint about an escape in a text, at a position up to another one. -/
def badEscape (start stop : Nat) (why : String) : String :=
  "(unicode error) 'unicodeescape' codec can't decode bytes in position " ++ toString start ++ "-"
    ++ toString stop ++ ": " ++ why

/-- What is wrong with the escapes of a text. A character beyond ASCII counts as ten, and a backslash
before it as six. -/
def textFault? (position : Nat) : Nat → List Char → Option String
  | 0, _ | _, [] => none
  | _, ['\\'] => none
  | fuel + 1, '\\' :: c :: rest =>
    match escapeWidth? c with
    | some width =>
      let digits := (rest.take width).takeWhile isHex
      if digits.length < width then
        let form := String.ofList (c :: List.replicate width 'X')
        some (badEscape position (position + 1 + digits.length) ("truncated \\" ++ form ++ " escape"))
      else if 0x110000 ≤ hexValue digits then
        some (badEscape position (position + 1 + width) "illegal Unicode character")
      else textFault? (position + 2 + width) fuel (rest.drop width)
    | none =>
      if c = 'N' then
        match rest with
        | '\x7b' :: name =>
          let letters := name.takeWhile (· ≠ '\x7d')
          if letters.length < name.length && !letters.isEmpty then
            some (badEscape position (position + 3 + letters.length) "unknown Unicode character name")
          else
            some (badEscape position (position + 2 + letters.length) "malformed \\N character escape")
        | _ => some (badEscape position (position + 1) "malformed \\N character escape")
      else textFault? (position + (if c.toNat < 128 then 2 else 16)) fuel rest
  | fuel + 1, c :: rest => textFault? (position + (if c.toNat < 128 then 1 else 10)) fuel rest

/-- What is wrong with the escapes of a text of bytes. -/
def bytesFault? (position : Nat) : Nat → List Char → Option String
  | 0, _ | _, [] => none
  | fuel + 1, '\\' :: 'x' :: rest =>
    if (rest.take 2).length = 2 && (rest.take 2).all isHex then
      bytesFault? (position + 4) fuel (rest.drop 2)
    else some ("(value error) invalid \\x escape at position " ++ toString position)
  | fuel + 1, '\\' :: _ :: rest => bytesFault? (position + 2) fuel rest
  | fuel + 1, _ :: rest => bytesFault? (position + 1) fuel rest

/-- What is wrong with the places of a text that are filled in, and with the text between them. -/
def placesFault? : Nat → List Char → Option String
  | 0, _ | _, [] => none
  | fuel + 1, '\x7b' :: '\x7b' :: rest => placesFault? fuel rest
  | fuel + 1, '\x7d' :: '\x7d' :: rest => placesFault? fuel rest
  | _, '\x7d' :: _ => some "f-string: single '\x7d' is not allowed"
  | fuel + 1, '\x7b' :: rest =>
    let inside := rest.takeWhile (· ≠ '\x7d')
    if inside.length = rest.length then some "f-string: expecting '\x7d'"
    else if inside.all (fun c => c = ' ' || c = '\t' || c = '\n' || c = '\x0c') then
      some "f-string: empty expression not allowed"
    else placesFault? fuel (rest.drop (inside.length + 1))
  | fuel + 1, cs =>
    let letters := cs.takeWhile (fun c => c ≠ '\x7b' && c ≠ '\x7d')
    (textFault? 0 letters.length letters).or (placesFault? fuel (cs.drop letters.length))

/-- What is wrong with a quotation by itself, places apart. -/
def ownFault? (q : Quotation) : Option String :=
  if q.isBytes && q.body.any (fun c => c.toNat ≥ 128) then
    some "bytes can only contain ASCII literal characters"
  else if q.isRaw || q.isFormatted then none
  else if q.isBytes then bytesFault? 0 q.body.length q.body
  else textFault? 0 q.body.length q.body

/-- What is wrong with a quotation that follows others, which are bytes or not. -/
def fault? (q : Quotation) (others : Option Bool) : Option String :=
  let mixed := others.any (· ≠ q.isBytes)
  q.ownFault?.or
    (if mixed then some "cannot mix bytes and nonbytes literals"
    else if q.isFormatted && !q.isRaw then placesFault? q.body.length q.body
    else none)

/-- The value of quotations that stand side by side. -/
def join (qs : List Quotation) : Except String Node :=
  let first := qs.head?.map isBytes
  let faults := qs.take 1 |>.map (fun q => q.fault? none)
  match (faults ++ (qs.drop 1).map (fun q => q.fault? first)).findSome? id with
  | some why => .error why
  | none =>
    .ok (if first = some true then .bytes else if qs.any isFormatted then .formatted else .text)

end Quotation

end TaintFlow.Console.Literal
