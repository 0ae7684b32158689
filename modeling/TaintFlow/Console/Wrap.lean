import TaintFlow.Text.Blank
import TaintFlow.Text.Parts
import TaintFlow.Text.Width

/-!
# Breaking lines

A line that is too wide is broken between words. A word that is wider than a whole line is folded
onto several lines, or keeps a line of its own and is cut there.
-/

namespace TaintFlow.Console

/-- What is done with a word that is wider than a line. -/
inductive Overflow where
  | fold
  | ellipsis
deriving DecidableEq, Repr

/-- Splits a text into words, each with the blanks around it that no earlier word has taken. -/
def wordsFrom : List Char → List Char → Bool → List (List Char)
  | current, [], _ => if current.isEmpty then [] else [current.reverse]
  | current, c :: rest, inBlanks =>
    if inBlanks && !Text.isBlank c && current.any (fun c => !Text.isBlank c) then
      current.reverse :: wordsFrom [c] rest false
    else wordsFrom (c :: current) rest (Text.isBlank c)

def words (cs : List Char) : List (List Char) := wordsFrom [] cs false

/-- The finished lines, the line that is being filled and the columns that it takes. -/
structure Filling where
  lines : List (List Char)
  line : List Char
  used : Nat

namespace Filling

/-- Puts a word onto the current line, or onto lines of its own if it does not fit. -/
def add (overflow : Overflow) (limit : Nat) (f : Filling) (word : List Char) : Filling :=
  let size := Text.charsWidth (Text.dropRight Text.isBlank word)
  if f.used + size ≤ limit then ⟨f.lines, f.line ++ word, f.used + Text.charsWidth word⟩
  else
    let lines := if f.line.isEmpty then f.lines else f.lines ++ [f.line]
    if size ≤ limit || overflow = .ellipsis then ⟨lines, word, Text.charsWidth word⟩
    else
      let pieces := Text.chop limit word
      let last := pieces.getLastD []
      ⟨lines ++ pieces.dropLast, last, Text.charsWidth last⟩

end Filling

/-- Drops blanks at the end of a line as long as it has more characters than the limit. -/
def trimExcess (limit : Nat) (cs : List Char) : List Char :=
  let trailing := (cs.reverse.takeWhile Text.isBlank).length
  cs.take (cs.length - min trailing (cs.length - limit))

/-- Cuts a line that is too wide. -/
def truncate (overflow : Overflow) (limit : Nat) (cs : List Char) : List Char :=
  if Text.charsWidth cs ≤ limit then cs
  else
    match overflow with
    | .fold => Text.cut limit cs
    | .ellipsis => Text.cut (limit - 1) cs ++ ['…']

/-- How far apart the tab stops are. -/
def tabSize : Nat := 8

/-- Fills up to the next tab stop after each part but the last one; `column` is where the first part
starts. -/
def fillTabs : Nat → List (List Char) → List (List Char)
  | _, [] => []
  | _, [part] => [part]
  | column, part :: rest =>
    let part := part ++ [' ']
    let column := column + Text.charsWidth part
    let missing := (tabSize - column % tabSize) % tabSize
    (part ++ List.replicate missing ' ') :: fillTabs (column + missing) rest

/-- The parts between tabs. Each tab is replaced by at least one blank, up to the next tab stop. -/
def expandTabs (cs : List Char) : List (List Char) :=
  fillTabs 0 (Text.splitChars (· = '\t') cs)

/-! ## Lines -/

/-- A line that has been broken off. What stood between tabs stays a stretch of its own, which is
measured apart. -/
structure Line where
  stretches : List (List Char)
  tabbed : Bool
deriving DecidableEq, Repr

namespace Line

def chars (l : Line) : List Char := l.stretches.flatten

/-- Puts blanks behind a line up to a width. Behind tabs they are a stretch of their own. -/
def fill (limit : Nat) (l : Line) : Line :=
  let blanks := List.replicate (limit - Text.charsWidth l.chars) ' '
  if l.tabbed then { l with stretches := l.stretches ++ [blanks] }
  else { l with stretches := [l.chars ++ blanks] }

/-- The stretches of a line within a number of columns, with blanks behind them up to it. -/
def fitStretches : Nat → List (List Char) → List Char
  | limit, [] => List.replicate limit ' '
  | limit, s :: rest =>
    let w := Text.charsWidth s
    if w ≤ limit then s ++ fitStretches (limit - w) rest else Text.cut limit s

/-- A line of an exact width. A joiner at the end of a stretch swallows the next character of the
stretch only, so a line that was filled before can get another blank. -/
def fit (limit : Nat) (l : Line) : String := String.ofList (fitStretches limit l.stretches)

end Line

/-- Groups characters by the lengths of the groups. -/
def grouped : List Nat → List Char → List (List Char)
  | _, [] => []
  | [], cs => [cs]
  | n :: rest, cs => cs.take n :: grouped rest (cs.drop n)

/-- What is left of groups after a number of characters. -/
def passOver : Nat → List Nat → List Nat
  | _, [] => []
  | n, size :: rest => if size ≤ n then passOver (n - size) rest else (size - n) :: rest

/-- Breaks a line so that no line is wider than the limit. -/
def wrapLine (overflow : Overflow) (limit : Nat) (cs : List Char) : List Line :=
  let parts := expandTabs cs
  let f := (words parts.flatten).foldl (Filling.add overflow limit) ⟨[], [], 0⟩
  let (lines, _) := (f.lines ++ [f.line]).foldl (fun (lines, sizes) line =>
    let shown := truncate overflow limit (trimExcess limit line)
    (lines ++ [⟨grouped sizes shown, parts.length > 1⟩], passOver line.length sizes))
    (([] : List Line), parts.map List.length)
  lines

/-- The lines of a text, none of them wider than the limit. -/
def wrap (overflow : Overflow) (limit : Nat) (cs : List Char) : List Line :=
  (Text.splitChars (· = '\n') cs).flatMap (wrapLine overflow limit)

/-- The columns that the widest row of a text takes before tabs are expanded. -/
def natural (cs : List Char) : Nat :=
  (Text.splitChars Text.isLineBreak cs).foldl (fun w row => max w (Text.charsWidth row)) 0

end TaintFlow.Console
