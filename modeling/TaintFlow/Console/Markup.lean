import TaintFlow.Console.Handler
import TaintFlow.Console.Style
import TaintFlow.Text.Pictograph

/-!
# Markup

Running text may hold tags in square brackets, which open and close styles and are not shown. A
closing tag ends the last tag that was opened with the same style, or the last one if it names none.
A backslash before a tag keeps it, and two of them show one.
-/

namespace TaintFlow.Console

inductive MarkupFault where
  | neverOpened (tag : String) (position : Nat)
  | nothingToClose (position : Nat)
  | badHandler (why : String)
  /-- A style that cannot be read. -/
  | badStyle (fault : Fault)
deriving DecidableEq, Repr

def MarkupFault.message : MarkupFault → String
  | neverOpened tag position =>
    "closing tag '" ++ tag ++ "' at position " ++ toString position ++ " doesn't match any open tag"
  | nothingToClose position =>
    "closing tag '[/]' at position " ++ toString position ++ " has nothing to close"
  | badHandler why => why
  | badStyle fault => fault.message

/-- A tag: its name and what follows an equals sign. -/
structure Tag where
  name : String
  parameters : Option String
deriving DecidableEq, Repr

namespace Tag

/-- The tag with the given text between its brackets. -/
def ofText (cs : List Char) : Tag :=
  match Text.splitFirstChars? ['='] cs with
  | some (name, parameters) => ⟨String.ofList name, some (String.ofList parameters)⟩
  | none => ⟨String.ofList cs, none⟩

/-- The tag as it is written. -/
def written (t : Tag) : String :=
  match t.parameters with
  | none => "[" ++ t.name ++ "]"
  | some parameters => "[" ++ t.name ++ "=" ++ parameters ++ "]"

/-- The name of the style that a closing tag ends. -/
def closes? (t : Tag) : Option String := (Text.after? "/" t.name).map Text.trim

def isHandler (t : Tag) : Bool := t.name.toList.head? = some '@'

/-- What is wrong with a tag that is about to be closed. -/
def fault? (t : Tag) : Option MarkupFault :=
  if t.isHandler then (t.parameters.bind Handler.fault?).map .badHandler else none

/-- What is wrong with the style of a tag once it is drawn: what follows the equals sign belongs to
it. -/
def styleFault? (t : Tag) : Option MarkupFault :=
  match t.isHandler, t.parameters with
  | false, some parameters =>
    match Style.normalName (t.name ++ " " ++ parameters) with
    | .ok _ => none
    | .error f => some (.badStyle f)
  | _, _ => none

end Tag

/-! ## Pieces -/

/-- A piece of markup. A tag knows where it stands. -/
inductive Piece where
  | text (chars : List Char)
  | tag (position : Nat) (tag : Tag)
deriving DecidableEq, Repr

/-- Whether a bracket opens a tag, by the character after it. -/
def opensTag (c : Char) : Bool :=
  ('a' ≤ c && c ≤ 'z') || c = '#' || c = '/' || c = '@'

/-- The rest of a tag up to its closing bracket, and what follows. -/
def tagRest? : List Char → Option (List Char × List Char)
  | [] => none
  | c :: rest =>
    if c = ']' then some ([], rest)
    else if c = '[' then none
    else (tagRest? rest).map (fun (front, after) => (c :: front, after))

/-- The text of the tag at the start of a list, and what follows. -/
def tag? : List Char → Option (List Char × List Char)
  | '[' :: c :: rest =>
    if opensTag c then (tagRest? rest).map (fun (front, after) => (c :: front, after)) else none
  | _ => none

/-- A piece of text, if there is any. -/
def textPiece (cs : List Char) : List Piece := if cs.isEmpty then [] else [.text cs]

/-- The pieces of markup that starts at a position, at most `fuel` steps of it; `pending` is text
before it from its end. -/
def piecesFrom : Nat → Nat → List Char → List Char → List Piece
  | 0, _, pending, cs => textPiece (pending.reverse ++ cs)
  | _, _, pending, [] => textPiece pending.reverse
  | fuel + 1, position, pending, c :: rest =>
    let slashes := ((c :: rest).takeWhile (· = '\\')).length
    match tag? ((c :: rest).drop slashes) with
    | none => piecesFrom fuel (position + 1) (c :: pending) rest
    | some (front, after) =>
      textPiece pending.reverse
      ++ textPiece (List.replicate (slashes / 2) '\\')
      ++ (if slashes % 2 = 1 then [.text ('[' :: front ++ [']'])]
        else [.tag (position + slashes) (.ofText front)])
      ++ piecesFrom fuel (position + slashes + front.length + 2) [] after

def piecesOf (cs : List Char) : List Piece := piecesFrom cs.length 0 [] cs

/-! ## The text that is shown -/

/-- A bracket that opens no tag may have a backslash before it, which is not shown. -/
def unescape : List Char → List Char
  | '\\' :: '[' :: rest => '[' :: unescape rest
  | c :: rest => c :: unescape rest
  | [] => []

/-- Controls that ring, move back, feed or return are never shown. -/
def withoutMovement (cs : List Char) : List Char :=
  cs.filter (fun c => c.toNat ∉ [7, 8, 11, 12, 13])

/-- The text so far, the open tags and all tags that were opened, the last one first. -/
structure Shown where
  text : List Char
  tags : List Tag
  opened : List Tag

namespace Shown

/-- Closes the last open tag with a style. -/
def close? (name : String) : List Tag → Option (Tag × List Tag)
  | [] => none
  | t :: rest =>
    if t.name = name then some (t, rest)
    else (close? name rest).map (fun (found, others) => (found, t :: others))

/-- Ends a tag, unless there is something wrong with it. -/
def finish (s : Shown) (closed : Tag) (others : List Tag) : Except MarkupFault Shown :=
  match closed.fault? with
  | some f => .error f
  | none => .ok { s with tags := others }

/-- The normal form of the name of a style. -/
def styleNamed (name : String) : Except MarkupFault String :=
  match Style.normalName name with
  | .ok name => .ok name
  | .error f => .error (.badStyle f)

def add (s : Shown) : Piece → Except MarkupFault Shown
  | .text cs =>
    .ok { s with text := s.text ++ withoutMovement (Text.drawPictographs (unescape cs)) }
  | .tag position t =>
    match t.closes? with
    | none => do
      let t : Tag := ⟨← styleNamed t.name, t.parameters⟩
      return { s with tags := t :: s.tags, opened := t :: s.opened }
    | some name => do
      if name.isEmpty then
        match s.tags with
        | [] => .error (.nothingToClose position)
        | last :: others => s.finish last others
      else
        match close? (← styleNamed name) s.tags with
        | none => .error (.neverOpened t.written position)
        | some (closed, others) => s.finish closed others

end Shown

/-- The text that markup shows. -/
def shownText (markup : String) : Except MarkupFault (List Char) := do
  let shown ← (piecesOf markup.toList).foldlM Shown.add ⟨[], [], []⟩
  match shown.opened.reverse.findSome? Tag.styleFault? with
  | some f => .error f
  | none => return shown.text

end TaintFlow.Console
