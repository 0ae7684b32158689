import TaintFlow.Console.Markup
import TaintFlow.Console.Wrap

/-!
# Text for the terminal

Reports are laid out for a fixed number of columns: headings in a rule across the whole width,
tables and panels drawn with box characters, and running text broken between words. Running text is
markup, so showing it can fail.
-/

namespace TaintFlow.Console

open Text (joinWith width alignRight)

def columns : Nat := 300

def repeated (n : Nat) (c : Char) : String := String.ofList (List.replicate n c)

/-! ## Displays -/

/-- The lines that are shown, up to a fault if there is one. -/
structure Display where
  lines : List String
  fault : Option MarkupFault

namespace Display

def ofLines (lines : List String) : Display := ⟨lines, none⟩

def empty : Display := ofLines []

/-- One display after another; nothing is shown after a fault. -/
def append (a b : Display) : Display :=
  match a.fault with
  | some _ => a
  | none => ⟨a.lines ++ b.lines, b.fault⟩

instance : Append Display := ⟨append⟩

/-- The displays of all elements, one after another. -/
def each {α : Type} (xs : List α) (f : α → Display) : Display :=
  xs.foldl (fun d x => d ++ f x) empty

end Display

/-- A heading in the middle of a rule; an odd column goes to the right. -/
def heading (title : String) : Display :=
  let left := (columns - width title - 2) / 2
  .ofLines [repeated left '─' ++ " " ++ title ++ " "
    ++ repeated (columns - width title - 2 - left) '─']

/-- Running text. -/
def say (markup : String) : Display :=
  match shownText markup with
  | .ok cs => .ofLines ((wrap .fold columns cs).map (fun l => String.ofList l.chars))
  | .error f => ⟨[], some f⟩

def warning (s : String) : Display := say ("[warning]WARNING:[/warning] " ++ s)

def success (s : String) : Display := say ("[success]OK:[/success] " ++ s)

/-! ## Tables -/

structure Column where
  title : String
  toRight : Bool := false

/-- Aligns a line of a cell. -/
def Column.align (c : Column) (limit : Nat) (line : Line) : String :=
  if c.toRight then alignRight limit (Text.trimRight (String.ofList line.chars))
  else (line.fill limit).fit limit

/-- The quotient to the nearest whole number; of two the even one. -/
def nearestQuotient (a b : Nat) : Nat :=
  let q := a / b
  let twice := 2 * (a % b)
  if twice > b || (twice = b && q % 2 = 1) then q + 1 else q

/-- Takes an excess from the columns of the greatest width, of which there are `count`, in equal
shares of at most `most`. -/
def shrinkWidest (widest most : Nat) : Nat → Nat → List Nat → List Nat
  | _, _, [] => []
  | excess, count, w :: rest =>
    if w = widest then
      let share := min most (nearestQuotient excess count)
      (w - share) :: shrinkWidest widest most (excess - share) (count - 1) rest
    else w :: shrinkWidest widest most excess count rest

def total (ws : List Nat) : Nat := ws.foldl (fun sum w => sum + w) 0

/-- Shrinks the widest columns until all of them fit into the room, in at most `fuel` rounds. A
round brings the widest columns down to the next ones at most. -/
def shrink (room : Nat) : Nat → List Nat → List Nat
  | 0, ws => ws
  | fuel + 1, ws =>
    let excess := total ws - room
    if excess = 0 then ws
    else
      let widest := ws.foldl max 0
      let next := (ws.filter (· ≠ widest)).foldl max 0
      shrink room fuel
        (shrinkWidest widest (min excess (widest - next)) excess (ws.count widest) ws)

/-- The width of the widest cell of a column, its title included. -/
def widestCell (title : String) (cells : List (List Char)) : Nat :=
  (cells.map natural).foldl max (width title)

/-- The width of each column with a blank on both sides, if the table had any number of columns. -/
def paddedWidths (cs : List Column) (rows : List (List (List Char))) : List Nat :=
  cs.zipIdx.map (fun (c, i) => widestCell c.title (rows.map (fun row => row.getD i [])) + 2)

/-- The width of each column: that of its widest cell, if all columns fit together. There is a bar
behind each column, and one in front of the table. -/
def widths (cs : List Column) (rows : List (List (List Char))) : List Nat :=
  let room := columns - (cs.length + 1)
  let padded := (paddedWidths cs rows).map (min room)
  (shrink room (total padded) padded).map (fun w => w - 2)

/-- A border of a table. -/
def border (left middle right : String) (line : Char) (widths : List Nat) : String :=
  left ++ joinWith middle (widths.map (fun w => repeated (w + 2) line)) ++ right

/-- A row of cells between bars. -/
def bars (bar : String) (cells : List String) : String :=
  bar ++ " " ++ joinWith (" " ++ bar ++ " ") cells ++ " " ++ bar

/-- The lines of a row of a table: as many as its highest cell has. -/
def tableRow (sized : List (Column × Nat)) (cells : List (List Char)) : List String :=
  let blocks := (sized.zip cells).map (fun ((c, w), cell) => (c, w, wrap .ellipsis w cell))
  let height := blocks.foldl (fun h (_, _, lines) => max h lines.length) 1
  (List.range height).map (fun i =>
    bars "│" (blocks.map (fun (c, w, lines) => c.align w (lines.getD i ⟨[], false⟩))))

/-- A table with a heavy frame around its head. -/
def table (cs : List Column) (rows : List (List String)) : Display :=
  let rows := rows.map (List.map (fun cell => withoutMovement cell.toList))
  let ws := widths cs rows
  let sized := cs.zip ws
  .ofLines ([border "┏" "┳" "┓" '━' ws,
    bars "┃" (sized.map (fun (c, w) => c.align w ⟨[c.title.toList], false⟩)),
    border "┡" "╇" "┩" '━' ws]
  ++ rows.flatMap (tableRow sized)
  ++ [border "└" "┴" "┘" '─' ws])

/-! ## Panels -/

/-- Text in a box with round corners. -/
def panel (text : String) : Display :=
  let cs := withoutMovement text.toList
  let w := min (columns - 4) (natural cs)
  .ofLines ([border "╭" "" "╮" '─' [w]]
    ++ (wrap .fold w cs).map (fun l => bars "│" [l.fit w])
    ++ [border "╰" "" "╯" '─' [w]])

end TaintFlow.Console
