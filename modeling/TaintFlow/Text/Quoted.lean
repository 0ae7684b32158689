import TaintFlow.Text.Case
import TaintFlow.Text.Points
import TaintFlow.Text.PrintableTable

/-!
# Quoted texts

Messages show a text between single quotes, or between double quotes when the text has a single
quote and no double one. A backslash, the closing quote and unprintable characters are escaped.
-/

namespace TaintFlow.Text

def hexDigit (n : Nat) : Char :=
  if n < 10 then Char.ofNat (48 + n) else Char.ofNat (87 + n)

/-- The last `width` digits of a number in base sixteen. -/
def hexDigits : Nat → Nat → List Char
  | 0, _ => []
  | width + 1, n => hexDigits width (n / 16) ++ [hexDigit (n % 16)]

def isPrintable (c : Char) : Bool := inRanges printableRanges c

def quoteChar (quote c : Char) : List Char :=
  if c = quote || c = '\\' then ['\\', c]
  else if c = '\t' then ['\\', 't']
  else if c = '\n' then ['\\', 'n']
  else if c = '\r' then ['\\', 'r']
  else if isPrintable c then [c]
  else if c.toNat < 0x100 then ['\\', 'x'] ++ hexDigits 2 c.toNat
  else if c.toNat < 0x10000 then ['\\', 'u'] ++ hexDigits 4 c.toNat
  else ['\\', 'U'] ++ hexDigits 8 c.toNat

/-- A unit of a pair is no character, so it cannot be printed. -/
def quotePoint (quote : Char) (point : Nat) : List Char :=
  if isUnit point then ['\\', 'u'] ++ hexDigits 4 point else quoteChar quote (Char.ofNat point)

/-- The quote that a text is shown in. -/
def quoteFor (cs : List Char) : Char :=
  if '\'' ∈ cs ∧ '"' ∉ cs then '"' else '\''

def quoted (s : String) : String :=
  let quote := quoteFor s.toList
  String.ofList (quote :: (points s).flatMap (quotePoint quote) ++ [quote])

end TaintFlow.Text
