/-!
# Blank characters

The white space of the Unicode standard surrounds numbers. Names and lines are trimmed of it and of
the four separator controls as well.
-/

namespace TaintFlow.Text

/-- The white space of the Unicode standard. -/
def isWhite (c : Char) : Bool :=
  let n := c.toNat
  (9 ≤ n && n ≤ 13) || n == 32 || n == 0x85 || n == 0xa0 || n == 0x1680
    || (0x2000 ≤ n && n ≤ 0x200a) || n == 0x2028 || n == 0x2029 || n == 0x202f || n == 0x205f
    || n == 0x3000

/-- White space or one of the controls that separate files, groups, records and units. -/
def isBlank (c : Char) : Bool := isWhite c || (28 ≤ c.toNat && c.toNat ≤ 31)

/-- Drops what satisfies `p` at the end of a list of characters. -/
def dropRight (p : Char → Bool) (cs : List Char) : List Char := (cs.reverse.dropWhile p).reverse

/-- Drops what satisfies `p` at both ends of a list of characters. -/
def strip (p : Char → Bool) (cs : List Char) : List Char := dropRight p (cs.dropWhile p)

def trim (s : String) : String := String.ofList (strip isBlank s.toList)

def trimRight (s : String) : String := String.ofList (dropRight isBlank s.toList)

/-- The words of a list of characters, if the current word is `word` from its end. -/
def wordsFrom (word : List Char) : List Char → List String
  | [] => if word.isEmpty then [] else [String.ofList word.reverse]
  | c :: rest =>
    if isBlank c then
      if word.isEmpty then wordsFrom [] rest
      else String.ofList word.reverse :: wordsFrom [] rest
    else wordsFrom (c :: word) rest

/-- The words of a text, which blanks separate. -/
def wordsOf (s : String) : List String := wordsFrom [] s.toList

end TaintFlow.Text
