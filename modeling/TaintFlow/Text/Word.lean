import TaintFlow.Text.Case
import TaintFlow.Text.Digit
import TaintFlow.Text.WordTable

/-!
# Words and names

A word is made of letters, numbers and underscores of any script. A name is a word that may also have
marks inside, and that starts with a letter.
-/

namespace TaintFlow.Text

def isWordChar (c : Char) : Bool := c = '_' || inRanges wordRanges c

/-- Whether a character may stand in a name after the first one. -/
def isNameChar (c : Char) : Bool :=
  inRanges nameMarkRanges c || (inRanges wordRanges c && !inRanges namelessRanges c)

/-- Whether a name may start with a character. -/
def isNameStart (c : Char) : Bool :=
  inRanges outerMarkRanges c
    || (inRanges wordRanges c && isNameChar c && (digitValue? c).isNone
      && !inRanges innerLetterRanges c)

/-- The first character that keeps a text from being a name. -/
def nameStop? : List Char → Option Char
  | [] => none
  | c :: rest => if isNameStart c then rest.find? (fun c => !isNameChar c) else some c

end TaintFlow.Text
