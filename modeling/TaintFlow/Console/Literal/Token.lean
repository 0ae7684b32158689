import TaintFlow.Text.Quoted
import TaintFlow.Text.Word

/-!
# Tokens of a literal

A literal is cut into numbers, quotations, names and marks. Inside brackets line ends count as
blanks. A cut that is impossible is told at once; a text that merely ends too early is known by a last
token, at which a reader stops only if it gets that far.
-/

namespace TaintFlow.Console.Literal

/-- A text as it is written: the letters before its quotes, and what stands between the quotes. -/
structure Quotation where
  marks : List Char
  body : List Char
deriving DecidableEq, Repr

namespace Quotation

def has (q : Quotation) (mark : Char) : Bool := mark ∈ q.marks || mark.toUpper ∈ q.marks

def isBytes (q : Quotation) : Bool := q.has 'b'

def isRaw (q : Quotation) : Bool := q.has 'r'

/-- Whether the text has places that are filled in. -/
def isFormatted (q : Quotation) : Bool := q.has 'f'

end Quotation

inductive Symbol where
  | name (s : String)
  | keyword (s : String)
  | number (imaginary : Bool)
  | quotation (q : Quotation)
  | mark (s : String)
  | newline
  | indent
  | finish
  /-- Nothing can be read from here on. -/
  | stop (why : String)
deriving DecidableEq, Repr

structure Token where
  symbol : Symbol
  /-- How many brackets are open after the token. -/
  level : Nat
deriving DecidableEq, Repr

def keywords : List String :=
  ["False", "None", "True", "and", "as", "assert", "async", "await", "break", "class", "continue",
    "def", "del", "elif", "else", "except", "finally", "for", "from", "global", "if", "import", "in",
    "is", "lambda", "nonlocal", "not", "or", "pass", "raise", "return", "try", "while", "with",
    "yield"]

/-- Marks of more than one character, longest first. -/
def longMarks : List String :=
  ["**=", "//=", "<<=", ">>=", "...", "!=", "%=", "&=", "**", "*=", "+=", "-=", "->", "//", "/=",
    ":=", "<<", "<=", "<>", "==", ">=", ">>", "@=", "^=", "|="]

/-- Whether a character can belong to a name; those beyond ASCII are looked at later. -/
def inName (c : Char) : Bool := c.isAlphanum || c = '_' || c.toNat ≥ 128

/-! ## Numbers -/

/-- The words that may follow a number without a blank. -/
def followers : List String := ["and", "else", "for", "or", "not"]

/-- Whether a word follows that may touch a number. -/
def touches (cs : List Char) : Bool :=
  match cs with
  | 'i' :: c :: _ => c = 'f' || c = 'n' || c = 's' || isFollower cs
  | _ => isFollower cs
where
  isFollower (cs : List Char) : Bool := decide (String.ofList (cs.takeWhile inName) ∈ followers)

/-- A number of some kind ends here, unless a letter follows that looks like a part of it. -/
def endOfNumber (kind : String) (cs : List Char) : Except String (List Char) :=
  match cs with
  | [] => .ok []
  | c :: rest =>
    if touches (c :: rest) || !inName c || c.toNat ≥ 128 then .ok (c :: rest)
    else .error ("invalid " ++ kind ++ " literal")

def badDecimal : Except String (List Char) := .error "invalid decimal literal"

/-- What follows digits that may be grouped by single underscores. -/
def decimalTail : List Char → Except String (List Char)
  | [] => .ok []
  | c :: rest =>
    if c.isDigit then decimalTail rest
    else if c = '_' then
      if (rest.head?.map Char.isDigit).getD false then decimalTail rest else badDecimal
    else .ok (c :: rest)

/-- What follows the zeros of a number, which may be grouped as well. -/
def zeros : List Char → Except String (List Char)
  | '0' :: rest => zeros rest
  | '_' :: '0' :: rest => zeros rest
  | '_' :: c :: rest => if c.isDigit then .ok (c :: rest) else badDecimal
  | '_' :: [] => badDecimal
  | cs => .ok cs

/-- A base other than ten: how it is called, and its digits. -/
structure Base where
  kind : String
  isDigit : Char → Bool

def Base.ofMark? (c : Char) : Option Base :=
  if c = 'x' || c = 'X' then some ⟨"hexadecimal", fun c => c.isDigit || c.toLower ∈ "abcdef".toList⟩
  else if c = 'o' || c = 'O' then some ⟨"octal", fun c => '0' ≤ c && c < '8'⟩
  else if c = 'b' || c = 'B' then some ⟨"binary", fun c => c = '0' || c = '1'⟩
  else none

/-- What follows the digits of a base. If one is needed, it has to come next. -/
def basedTail (b : Base) (needed : Bool) : List Char → Except String (List Char)
  | [] => if needed then .error ("invalid " ++ b.kind ++ " literal") else .ok []
  | c :: rest =>
    if b.isDigit c then basedTail b false rest
    else if c.isDigit then
      .error ("invalid digit '" ++ c.toString ++ "' in " ++ b.kind ++ " literal")
    else if needed then .error ("invalid " ++ b.kind ++ " literal")
    else if c = '_' then basedTail b true rest
    else .ok (c :: rest)

/-- The end of a number that can still be imaginary. -/
def imaginaryTail (cs : List Char) : Except String (Bool × List Char) := do
  match cs with
  | 'j' :: rest | 'J' :: rest => return (true, ← endOfNumber "imaginary" rest)
  | cs => return (false, ← endOfNumber "decimal" cs)

/-- What follows a number that can still have an exponent. -/
def exponentTail (cs : List Char) : Except String (Bool × List Char) := do
  match cs with
  | [] => imaginaryTail []
  | e :: rest =>
    if e = 'e' || e = 'E' then
      match rest with
      | [] => return (false, ← endOfNumber "decimal" cs)
      | c :: more =>
        if c.isDigit then imaginaryTail (← decimalTail rest)
        else if c = '+' || c = '-' then
          if (more.head?.map Char.isDigit).getD false then imaginaryTail (← decimalTail more)
          else .error "invalid decimal literal"
        else return (false, ← endOfNumber "decimal" cs)
    else imaginaryTail cs

/-- What follows a number that can still have a fraction. -/
def fractionTail (cs : List Char) : Except String (Bool × List Char) := do
  match cs with
  | '.' :: rest => exponentTail (← if (rest.head?.map Char.isDigit).getD false
      then decimalTail rest else .ok rest)
  | cs => exponentTail cs

/-- Whether a number is imaginary, and what follows it. -/
def number (cs : List Char) : Except String (Bool × List Char) := do
  match cs with
  | '0' :: rest =>
    match rest.head?.bind Base.ofMark? with
    | some b =>
      let digits := rest.drop 1
      let digits := if digits.head? = some '_' then digits.drop 1 else digits
      return (false, ← endOfNumber b.kind (← basedTail b true digits))
    | none =>
      let rest ← zeros rest
      let padded := (rest.head?.map Char.isDigit).getD false
      let rest ← decimalTail rest
      if padded && (rest.head?.map (fun c => !".eEjJ".toList.contains c)).getD true then
        .error ("leading zeros in decimal integer literals are not permitted; "
          ++ "use an 0o prefix for octal integers")
      else fractionTail rest
  | cs => fractionTail (← decimalTail cs)

/-! ## Quotations -/

/-- What stands before the closing quotes, and what follows them. Without them, the number of lines
that were passed. -/
def upToQuotes (quote : Char) (isTriple : Bool) (lines : Nat) :
    List Char → Except Nat (List Char × List Char)
  | [] => .error lines
  | '\\' :: [] => .error lines
  | '\\' :: c :: rest => do
    let (body, after) ← upToQuotes quote isTriple (if c = '\n' then lines + 1 else lines) rest
    return ('\\' :: c :: body, after)
  | c :: rest => do
    if c = '\n' && !isTriple then .error lines
    if c = quote && !isTriple then return ([], rest)
    if c = quote && rest.take 2 = [quote, quote] then return ([], rest.drop 2)
    let (body, after) ← upToQuotes quote isTriple (if c = '\n' then lines + 1 else lines) rest
    return (c :: body, after)

/-- The rest of a quotation after its first quote, on a given line. -/
def quotation (line : Nat) (marks : List Char) (quote : Char) (cs : List Char) :
    Except String (Quotation × List Char) :=
  let isTriple := cs.take 2 = [quote, quote]
  match upToQuotes quote isTriple line (if isTriple then cs.drop 2 else cs) with
  | .ok (body, rest) => .ok (⟨marks, body⟩, rest)
  | .error line =>
    .error ("unterminated " ++ (if isTriple then "triple-quoted " else "")
      ++ "string literal (detected at line " ++ toString line ++ ")")

/-- Letters that may stand before the quotes of a text, in small letters. -/
def textMarks : List String := ["b", "u", "r", "f", "br", "rb", "fr", "rf"]

/-! ## Cutting -/

/-- Where a cut stands: the open brackets with their lines, innermost first, and the line. -/
structure Place where
  brackets : List (Char × Nat)
  line : Nat
  /-- Nothing was read on the line yet. -/
  isFresh : Bool

def codePoint (c : Char) : String :=
  let width := if c.toNat < 0x10000 then 4 else if c.toNat < 0x100000 then 5 else 6
  "U+" ++ String.ofList ((Text.hexDigits width c.toNat).map Char.toUpper)

/-- The complaint about a character that cannot stand anywhere. -/
def strayCharacter (c : Char) : String :=
  if Text.isPrintable c then "invalid character '" ++ c.toString ++ "' (" ++ codePoint c ++ ")"
  else "invalid non-printable character " ++ codePoint c

def isOpening (c : Char) : Bool := c = '(' || c = '[' || c = '\x7b'

def isClosing (c : Char) : Bool := c = ')' || c = ']' || c = '\x7d'

def partner (c : Char) : Char := if c = ')' then '(' else if c = ']' then '[' else '\x7b'

/-- The greatest number of brackets that can be open. -/
def maxBrackets : Nat := 200

namespace Place

def level (p : Place) : Nat := p.brackets.length

def read (p : Place) : Place := { p with isFresh := false }

/-- The tokens at the end of the text. -/
def finish (p : Place) : List Token :=
  match p.brackets with
  | (c, _) :: _ => [⟨.stop ("'" ++ c.toString ++ "' was never closed"), p.level⟩]
  | [] => [⟨.newline, 0⟩, ⟨.finish, 0⟩]

/-- The end of a line outside of brackets: a token unless the line is empty, and another one if the
next line is indented. -/
def lineEnd (p : Place) (rest : List Char) : List Token :=
  let next := rest.dropWhile (fun c => c = ' ' || c = '\t')
  let isIndented := next.length < rest.length
    && (next.head?.map (fun c => c ≠ '\n' && c ≠ '#')).getD false
  (if p.isFresh then [] else [⟨.newline, 0⟩]) ++ (if isIndented then [⟨.indent, 0⟩] else [])

/-- The place after a closing bracket, if it closes the innermost one. -/
def close (p : Place) (c : Char) : Except String Place :=
  match p.brackets with
  | [] => .error ("unmatched '" ++ c.toString ++ "'")
  | (opening, line) :: rest =>
    if opening = partner c then .ok { p with brackets := rest, isFresh := false }
    else .error ("closing parenthesis '" ++ c.toString ++ "' does not match opening parenthesis '"
      ++ opening.toString ++ "'" ++ (if line = p.line then "" else " on line " ++ toString line))

end Place

/-- The mark that a text starts with. -/
def markAt (c : Char) (cs : List Char) : String :=
  (longMarks.find? (fun m => m.toList.isPrefixOf (c :: cs))).getD c.toString

/-- The tokens of a text, in at most `fuel` steps. -/
def tokensFrom : Nat → Place → List Char → Except String (List Token)
  | 0, p, _ => .ok p.finish
  | _, p, [] => .ok p.finish
  | fuel + 1, p, c :: rest => do
    let read (s : Symbol) (p : Place) (rest : List Char) : Except String (List Token) := do
      return ⟨s, p.level⟩ :: (← tokensFrom fuel p.read rest)
    if c = ' ' || c = '\t' || c = '\x0c' then tokensFrom fuel p rest
    else if c = '\n' then
      let next := { p with line := p.line + 1, isFresh := true }
      let tokens ← tokensFrom fuel next rest
      return (if p.brackets.isEmpty then p.lineEnd rest else []) ++ tokens
    else if c = '#' then tokensFrom fuel p (rest.dropWhile (· ≠ '\n'))
    else if c = '\\' then
      match rest with
      | '\n' :: [] =>
        return if p.brackets.isEmpty then [⟨.stop "unexpected EOF while parsing", 0⟩] else p.finish
      | '\n' :: rest => tokensFrom fuel { p with line := p.line + 1 } rest
      | _ => return [⟨.stop "unexpected character after line continuation character", p.level⟩]
    else if c.isDigit || (c = '.' && (rest.head?.map Char.isDigit).getD false) then
      let (imaginary, rest) ← if c = '.' then fractionTail (c :: rest) else number (c :: rest)
      read (.number imaginary) p rest
    else if inName c then
      let word := c :: rest.takeWhile inName
      let after := rest.dropWhile inName
      let isMarks := decide (String.ofList (word.map Char.toLower) ∈ textMarks)
      match after, isMarks with
      | '\'' :: body, true | '"' :: body, true =>
        let (q, rest) ← quotation p.line word (after.headD '"') body
        let lines := (q.body.filter (· = '\n')).length
        read (.quotation q) { p with line := p.line + lines } rest
      | _, _ =>
        match if word.any (fun c => c.toNat ≥ 128) then Text.nameStop? word else none with
        | some stray => .error (strayCharacter stray)
        | none =>
          let s := String.ofList word
          read (if s ∈ keywords then .keyword s else .name s) p after
    else if c = '\'' || c = '"' then
      let (q, rest) ← quotation p.line [] c rest
      let lines := (q.body.filter (· = '\n')).length
      read (.quotation q) { p with line := p.line + lines } rest
    else if isOpening c then
      if maxBrackets ≤ p.level then .error "too many nested parentheses"
      else read (.mark c.toString) { p with brackets := (c, p.line) :: p.brackets } rest
    else if isClosing c then read (.mark c.toString) (← p.close c) rest
    else if !Text.isPrintable c then .error (strayCharacter c)
    else
      let mark := markAt c rest
      read (.mark mark) p (rest.drop (mark.length - 1))

/-- Line ends of every kind as one character. -/
def unifyLines : List Char → List Char
  | '\r' :: '\n' :: rest => '\n' :: unifyLines rest
  | '\r' :: rest => '\n' :: unifyLines rest
  | c :: rest => c :: unifyLines rest
  | [] => []

/-- The tokens of a text. -/
def tokens (cs : List Char) : Except String (List Token) :=
  let cs := unifyLines cs
  if '\x00' ∈ cs then .error "source code string cannot contain null bytes"
  else tokensFrom (cs.length + 1) ⟨[], 1, true⟩ cs

end TaintFlow.Console.Literal
