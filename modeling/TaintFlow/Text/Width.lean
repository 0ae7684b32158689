import TaintFlow.Text.Case
import TaintFlow.Text.WidthTable

/-!
# The width of a text

How many columns a text takes on a terminal. Most characters take one, East Asian wide characters
and most pictographs two, and marks and controls none. Two characters change what stands next to
them: a joiner draws the next character into the last one, and a picture selector shows the last
character as a picture, which may be wider.
-/

namespace TaintFlow.Text

def isControl (c : Char) : Bool := c.toNat < 32 || (127 ≤ c.toNat && c.toNat < 160)

def charWidth (c : Char) : Nat :=
  if 32 ≤ c.toNat && c.toNat < 127 then 1
  else if isControl c || inRanges markRanges c then 0
  else if inRanges wideRanges c then 2
  else 1

def joiner : Char := Char.ofNat 0x200d

def pictureSelector : Char := Char.ofNat 0xfe0f

/-- The columns that a character gains when it is shown as a picture. -/
def pictureGain (c : Char) : Nat := if inRanges pictureRanges c then 1 else 0

/-! ## Columns -/

/-- The columns of the characters so far, the last one that has a width, and whether the next one is
drawn into it. -/
structure Measure where
  columns : Nat
  last : Option Char
  joins : Bool

namespace Measure

def start : Measure := ⟨0, none, false⟩

def add (m : Measure) (c : Char) : Measure :=
  if m.joins then { m with joins := false }
  else if c = joiner then { m with joins := true }
  else if c = pictureSelector then
    ⟨m.columns + (m.last.map pictureGain).getD 0, none, false⟩
  else
    match charWidth c with
    | 0 => m
    | w + 1 => ⟨m.columns + (w + 1), some c, false⟩

end Measure

def charsWidth (cs : List Char) : Nat := (cs.foldl Measure.add Measure.start).columns

def width (s : String) : Nat := charsWidth s.toList

/-! ## Clusters -/

/-- Characters that are drawn together. -/
structure Cluster where
  chars : List Char
  columns : Nat
deriving DecidableEq, Repr

/-- The clusters so far, the latest one first, with the last character that has a width and whether
the next one is drawn into it. -/
structure Clustering where
  clusters : List Cluster
  last : Option Char
  joins : Bool

namespace Clustering

def start : Clustering := ⟨[], none, false⟩

/-- Puts a character and columns into the latest cluster, or into a new one if there is none. -/
def extend (s : Clustering) (c : Char) (columns : Nat) : List Cluster :=
  match s.clusters with
  | [] => [⟨[c], 0⟩]
  | latest :: before => ⟨latest.chars ++ [c], latest.columns + columns⟩ :: before

def add (s : Clustering) (c : Char) : Clustering :=
  if s.joins then ⟨s.extend c 0, s.last, false⟩
  else if c = joiner then ⟨s.extend c 0, s.last, !s.clusters.isEmpty⟩
  else if c = pictureSelector then
    match (s.last.map pictureGain).getD 0 with
    | 0 => ⟨s.extend c 0, s.last, false⟩
    | gain + 1 => ⟨s.extend c (gain + 1), none, false⟩
  else
    match charWidth c with
    | 0 => ⟨s.extend c 0, s.last, false⟩
    | w + 1 => ⟨⟨[c], w + 1⟩ :: s.clusters, some c, false⟩

end Clustering

def clustersOf (cs : List Char) : List Cluster :=
  (cs.foldl Clustering.add Clustering.start).clusters.reverse

/-- The characters of the clusters within a number of columns. A wide cluster that would cross the
edge gives way to a blank. -/
def cutClusters : Nat → List Cluster → List Char
  | 0, _ | _, [] => []
  | limit + 1, c :: rest =>
    if c.columns ≤ limit + 1 then c.chars ++ cutClusters (limit + 1 - c.columns) rest else [' ']

/-- The characters within a number of columns. -/
def cut (limit : Nat) (cs : List Char) : List Char := cutClusters limit (clustersOf cs)

/-- Cuts characters into pieces that are no wider than a limit. -/
def chop (limit : Nat) (cs : List Char) : List (List Char) :=
  let (pieces, piece, _) := (clustersOf cs).foldl (fun (pieces, piece, used) c =>
    if used + c.columns > limit then (pieces ++ [piece], c.chars, c.columns)
    else (pieces, piece ++ c.chars, used + c.columns))
    (([] : List (List Char)), ([] : List Char), 0)
  pieces ++ [piece]

/-! ## Alignment -/

def blanks (n : Nat) : String := String.ofList (List.replicate n ' ')

/-- A text with blanks before it up to a width. -/
def alignRight (columns : Nat) (s : String) : String := blanks (columns - width s) ++ s

end TaintFlow.Text
